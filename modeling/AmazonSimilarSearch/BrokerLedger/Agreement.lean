import AmazonSimilarSearch.BrokerLedger.Decode
import AmazonSimilarSearch.BrokerLedger.FinalLedgerExact

/-!
# The two ledgers agree

Both executors reserve on one ledger file, under the limits and the pricing that
the coordinator prepared. From one table they make the same row or none; what the
outer executor freezes is decoded to what the typed executor measures; and what
it reserved is decoded together with every later frozen ledger.
-/
namespace AmazonSimilarSearch.BrokerLedger
open Foundation Broker

/-- A private ledger file, and the limits prepared for every packet. -/
structure LedgerSession where
  file : LedgerFile
  isPrivate : file.stat.isPrivate = true
  limits : String → PreparedLimits

namespace LedgerSession

variable (sha256 : HashFunction) (session : LedgerSession)

def packetLimits (packetSha256 : String) : Limits := (session.limits packetSha256).limits

/-- What both executors hash of the file. -/
def filePayload : Json :=
  identityPayload (.int session.file.stat.device) (.int session.file.stat.inode)
    session.file.path.text

/-- `prepare_broker_ledger` -/
def identity : LedgerIdentity :=
  ⟨session.file.path.text, session.file.stat.device, session.file.stat.inode,
    sha256 (identityDomain ++ (Json.compact? session.filePayload).getD [])⟩

/-- The batch of a packet. -/
def batch (packet : Sha256) : PreparedBatch :=
  { reviewPacketSha256 := packet
    brokerLedgerIdentitySha256 := (session.identity sha256).sha256
    brokerPricingPolicySha256 := approvedPricingPolicySha256 sha256
    limits := session.limits packet.text }

/-- The same reservation, asked of the typed executor. -/
def call (packet : Sha256) (run : PreparedRun) : ReserveCall :=
  { packetSha256 := packet.text
    role := run.role
    attempt := run.attempt
    reservedTokens := run.reservedTokens
    reservedCostMicrousd := run.reservedCostMicrousd
    packetReservationLimit := (session.limits packet.text).tokens
    packetCostLimitMicrousd := (session.limits packet.text).cost
    pricingPolicySha256 := approvedPricingPolicySha256 sha256
    expectedLedgerIdentitySha256 := (session.identity sha256).sha256.text }

end LedgerSession

section Identity

variable {sha256 : HashFunction} {session : LedgerSession} {path : LedgerPath}
  {stat : Option LedgerStat} {identity after : LedgerIdentity}

theorem canonical_eq_ok_iff {value : Json} {raw : Bytes} :
    canonical value = .ok raw ↔ Json.compact? value = some raw := by
  simp [canonical, Json.compact?]

/-- Both executors give a file the same identity. -/
theorem outerLedgerIdentity_eq_ok_iff :
    outerLedgerIdentity sha256 path stat = .ok identity ↔
      ledgerIdentity sha256 path stat = .ok identity := by
  simp only [outerLedgerIdentity, ledgerIdentity, bind_eq_ok_iff, ensure_eq_ok_iff, exists_const,
    required_eq_ok_iff, pure_eq_ok_iff, canonical_eq_ok_iff, canonicalJson_eq_ok_iff,
    LedgerStat.isPrivate, Bool.and_eq_true, decide_eq_true_eq]
  constructor
  · rintro ⟨found, hfound, hregular, hmode, hrest⟩
    exact ⟨found, hfound, ⟨⟨hregular, hmode⟩, found.device_within.1, found.inode_within.1⟩, hrest⟩
  · rintro ⟨found, hfound, ⟨⟨hregular, hmode⟩, -, -⟩, hrest⟩
    exact ⟨found, hfound, hregular, hmode, hrest⟩

theorem path_of_ledgerIdentity (h : ledgerIdentity sha256 path stat = .ok identity) :
    identity.path = path.text := by
  simp only [ledgerIdentity, bind_eq_ok_iff, ensure_eq_ok_iff, exists_const, required_eq_ok_iff,
    pure_eq_ok_iff] at h
  obtain ⟨found, -, -, payload, -, rfl⟩ := h
  rfl

/-- The outer executor compares less of the identity, but the path is the same. -/
theorem unchanged_iff (h : ledgerIdentity sha256 path stat = .ok after)
    (hpath : identity.path = path.text) :
    (after.device = identity.device ∧ after.inode = identity.inode ∧
      after.sha256 = identity.sha256) ↔ after = identity := by
  have hafter := path_of_ledgerIdentity h
  constructor
  · rintro ⟨hdevice, hinode, hsha256⟩
    obtain ⟨_, _, _, _⟩ := after
    obtain ⟨_, _, _, _⟩ := identity
    simp_all
  · rintro rfl
    exact ⟨rfl, rfl, rfl⟩

theorem encodes_below {value : ℤ} (h : 0 ≤ value ∧ value < 2 ^ 64) : (Json.int value).Encodes := by
  have hbound : value.natAbs < 2 ^ 64 := by omega
  exact Json.encodes_int (hbound.trans (by decide +kernel))

theorem encodes_filePayload (session : LedgerSession) : session.filePayload.Encodes := by
  have hdevice := encodes_below session.file.stat.device_within
  have hinode := encodes_below ⟨session.file.stat.inode_within.1.le,
    session.file.stat.inode_within.2⟩
  simp [LedgerSession.filePayload, identityPayload, hdevice, hinode]

theorem compact_filePayload (session : LedgerSession) :
    Json.compact? session.filePayload = some ((Json.compact? session.filePayload).getD []) := by
  obtain ⟨raw, hraw⟩ :=
    Option.isSome_iff_exists.mp (Json.compact?_isSome_iff.mpr (encodes_filePayload session))
  rw [hraw, Option.getD_some]

theorem ledgerIdentity_session (sha256 : HashFunction) (session : LedgerSession) :
    ledgerIdentity sha256 session.file.path (some session.file.stat) =
      .ok (session.identity sha256) := by
  simp only [ledgerIdentity, required_some, ok_bind]
  rw [ensure_of _ ⟨session.isPrivate, session.file.stat.device_within.1,
    session.file.stat.inode_within.1⟩, ok_bind]
  rw [show canonicalJson (identityPayload _ _ _) = .ok _ from
    canonicalJson_eq_ok_iff.mpr (compact_filePayload session), ok_bind]
  rfl

/-- The binding of measurements of the session's file. -/
theorem ofFile_session (sha256 : HashFunction) (session : LedgerSession) (limits : Limits)
    (packetSha256 : String) :
    (ledgerBinding sha256 limits (session.identity sha256) packetSha256).OfFile sha256 :=
  ⟨session.file.path.absolute, decide_eq_true session.file.stat.device_within.1,
    decide_eq_true session.file.stat.inode_within.1, _,
    canonicalJson_eq_ok_iff.mpr (compact_filePayload session), rfl⟩

theorem encodes_limit (value : ℤ) (h : 0 ≤ value ∧ value ≤ 7940000) : (Json.int value).Encodes :=
  encodes_of_fitsInteger ⟨by omega, by omega⟩

theorem encodes_session (sha256 : HashFunction) (session : LedgerSession) (packetSha256 : String) :
    (ledgerBinding sha256 (session.packetLimits packetSha256) (session.identity sha256)
      packetSha256).Encodes where
  device := encodes_below session.file.stat.device_within
  inode := encodes_below ⟨session.file.stat.inode_within.1.le, session.file.stat.inode_within.2⟩
  reservationLimit := by
    have hwithin := (session.limits packetSha256).tokens_within
    exact encodes_limit (session.limits packetSha256).tokens ⟨by omega, by omega⟩
  costLimit := by
    have hwithin := (session.limits packetSha256).cost_within
    exact encodes_limit (session.limits packetSha256).cost ⟨by omega, by omega⟩

/-- A packet of a budgeted table is measured at any time. -/
theorem builds_session (sha256 : HashFunction) {table : Table} (hbudget : TableBudgeted session.packetLimits table)
    (packetSha256 : String) (measuredAt : UnixTime) :
    ∃ evidence, Builds sha256 (ledgerBinding sha256 (session.packetLimits packetSha256)
      (session.identity sha256) packetSha256) (ledgerRows table packetSha256) measuredAt.ns
        evidence :=
  (hbudget packetSha256).builds ((hbudget packetSha256).accountable rfl rfl rfl rfl)
    (encodes_session sha256 session packetSha256) measuredAt

end Identity

/-! ## One reservation -/

section Reservation

variable {sha256 : HashFunction} {session : LedgerSession} {host : Host} {packet : Sha256}
  {run : PreparedRun} {table next : Table} {payload : Json}

/-- The row of a prepared run is one that the builder accepts. -/
theorem OuterReserves.checked {batch : PreparedBatch} {identity : LedgerIdentity}
    (h : OuterReserves host batch run identity table next payload)
    (hcost : 0 ≤ totalCost (ofPacket table batch.reviewPacketSha256.text)) :
    (run.row batch.reviewPacketSha256.text host.reservedAt).Checked
      batch.reviewPacketSha256.text := by
  have hfits := h.cost
  have hlimit := batch.limits.cost_within
  have htokens := run.tokens_within
  have hpositive := run.cost_pos
  refine ⟨rfl, run.role_mem, run.attempt_within, ⟨?_, ?_⟩, ⟨?_, ?_⟩, host.reservedAt.afterEpoch⟩
  · show 1 ≤ run.reservedTokens
    omega
  · show run.reservedTokens ≤ 272000
    exact htokens.2
  · show 1 ≤ run.reservedCostMicrousd
    omega
  · show run.reservedCostMicrousd ≤ 7940000
    omega

theorem OuterReserves.tableBudgeted {identity : LedgerIdentity}
    (h : OuterReserves host (session.batch sha256 packet) run identity table next payload)
    (hbudget : TableBudgeted session.packetLimits table) :
    TableBudgeted session.packetLimits next := by
  have hpositive : 0 ≤ totalCost (ofPacket table packet.text) :=
    sum_map_nonneg fun row hrow => ((hbudget packet.text).checked row hrow).positive.2
  rw [h.next_eq]
  refine hbudget.concat ?_
  exact (hbudget packet.text).concat (h.checked hpositive)
    (insertRow_eq_ok_iff.mp h.inserted).1.2.2.2 h.attempt h.tokens h.cost

/-- One transaction commits exactly when the other does, and to the same table. -/
theorem reserves_iff_outerReserves (hbudget : TableBudgeted session.packetLimits table) :
    (∃ evidence record, Reserves sha256 host (session.call sha256 packet run)
        (session.identity sha256) table next evidence record) ↔
      ∃ payload, OuterReserves host (session.batch sha256 packet) run (session.identity sha256)
        table next payload := by
  constructor
  · rintro ⟨evidence, record, h⟩
    exact ⟨_, h.runs, h.numbered, h.attempt, h.fits, h.tokens, h.cost, h.inserted, rfl⟩
  · rintro ⟨payload, h⟩
    have hnext := h.tableBudgeted hbudget
    obtain ⟨evidence, hevidence⟩ :=
      builds_session sha256 hnext packet.text host.measuredAt
    have hrow : run.row packet.text host.reservedAt ∈ ofPacket next packet.text := by
      rw [h.next_eq, mem_ofPacket]
      exact ⟨List.mem_append_right _ (List.mem_singleton_self _), rfl⟩
    obtain ⟨raw, hraw⟩ := canonicalJson_of_encodes (encodes_reservationRecord
      ((hnext packet.text).checked _ hrow) ((hnext packet.text).fits _ hrow))
    have hattempt := h.attempt
    have hwithin := run.attempt_within
    refine ⟨evidence, sha256 (reservationRecordDomain ++ raw), ?_⟩
    exact { runs := h.runs, numbered := h.numbered
            atMostTwo := by
              have htwo : ((ofRole (ofPacket table packet.text) run.role).length : ℤ) + 1 ≤ 2 :=
                hattempt ▸ hwithin.2
              show (ofRole (ofPacket table packet.text) run.role).length + 1 ≤ 2
              omega
            attempt := h.attempt, fits := h.fits, tokens := h.tokens, cost := h.cost
            inserted := h.inserted, evidence := hevidence
            record := by
              rw [reservationRecordSha256, show reservationRecord _ = _ from rfl]
              exact bind_eq_ok_iff.mpr ⟨raw, hraw, rfl⟩ }

/-- The calls leave the same table, and return together or raise together. -/
def Agree {ε ε' α β : Type} (a : Except ε α × Table) (b : Except ε' β × Table) : Prop :=
  a.2 = b.2 ∧ a.1.isOk = b.1.isOk

theorem openLedger_session (hconnect : host.fails .connect = false) :
    openLedger sha256 (host.onFile session.file) (session.call sha256 packet run) =
      .ok (session.identity sha256) := by
  simp only [openLedger, Host.onFile, ledgerIdentity_session, ok_bind]
  rw [show sql (execute host.fails .connect) = .ok () from
    sql_eq_ok_iff.mpr (execute_eq_ok_iff.mpr hconnect), ok_bind,
    ensure_of _ ⟨isSha256_text _, rfl⟩, ok_bind]
  rfl

theorem outerOpen_session {message : String} (hconnect : host.fails .connect = false) :
    outerOpen sha256 message (host.onFile session.file) (session.batch sha256 packet) =
      .ok (session.identity sha256) := by
  have hidentity := outerLedgerIdentity_eq_ok_iff.mpr (ledgerIdentity_session sha256 session)
  have hsame : (session.identity sha256).sha256 =
      (session.batch sha256 packet).brokerLedgerIdentitySha256 := rfl
  simp only [outerOpen, Host.onFile, hidentity, ok_bind]
  rw [ensure_of _ hsame, ok_bind, show outerSql message (execute host.fails .connect) = .ok () from
    outerSql_eq_ok_iff.mpr (execute_eq_ok_iff.mpr hconnect), ok_bind]
  rfl

theorem openLedger_unconnected (hconnect : host.fails .connect = true) :
    openLedger sha256 (host.onFile session.file) (session.call sha256 packet run) =
      .error invalidLedger := by
  simp only [openLedger, Host.onFile, ledgerIdentity_session, ok_bind, execute, ensure, hconnect]
  rfl

theorem outerOpen_unconnected {message : String} (hconnect : host.fails .connect = true) :
    outerOpen sha256 message (host.onFile session.file) (session.batch sha256 packet) =
      .error (.outerBroker message) := by
  have hidentity := outerLedgerIdentity_eq_ok_iff.mpr (ledgerIdentity_session sha256 session)
  have hsame : (session.identity sha256).sha256 =
      (session.batch sha256 packet).brokerLedgerIdentitySha256 := rfl
  simp only [outerOpen, Host.onFile, hidentity, ok_bind]
  rw [ensure_of _ hsame, ok_bind]
  simp only [execute, ensure, hconnect]
  rfl

/-- After the commit both executors look at the file once more, and find it unchanged or not. -/
theorem agree_after {α β : Type} (a : α) (b : β) (path : LedgerPath) (stat : Option LedgerStat)
    (identity : LedgerIdentity) (hpath : identity.path = path.text) (table : Table) (e : Raised)
    (e' : ExecutorError) :
    Agree
      ((do
        let after ← outerLedgerIdentity sha256 path stat
        ensure (after.device = identity.device ∧ after.inode = identity.inode ∧
          after.sha256 = identity.sha256) e
        pure a : Except Raised α), table)
      ((do
        let after ← ledgerIdentity sha256 path stat
        ensure (after = identity) e'
        pure b : Except ExecutorError β), table) := by
  refine ⟨rfl, ?_⟩
  cases hafter : ledgerIdentity sha256 path stat with
  | error error =>
      cases houter : outerLedgerIdentity sha256 path stat with
      | error error' => rfl
      | ok found =>
          rw [outerLedgerIdentity_eq_ok_iff, hafter] at houter
          cases houter
  | ok found =>
      rw [outerLedgerIdentity_eq_ok_iff.mpr hafter]
      have hunchanged := unchanged_iff hafter hpath
      by_cases hsame : found = identity
      · simp only [ok_bind, ensure_of _ hsame, ensure_of _ (hunchanged.mpr hsame)]
        rfl
      · simp only [ok_bind, ensure, if_neg hsame, if_neg (mt hunchanged.mp hsame)]
        rfl

/-- From one table, with one host, both executors reserve the same row or none. -/
theorem reserve_agree (sha256 : HashFunction) (session : LedgerSession) (host : Host)
    (packet : Sha256) (run : PreparedRun) (hbudget : TableBudgeted session.packetLimits table) :
    Agree
      (outerReserve sha256 (host.onFile session.file) (session.batch sha256 packet) run table)
      (reserveAttempt sha256 (host.onFile session.file) (session.call sha256 packet run) table) := by
  unfold outerReserve reserveAttempt
  cases hconnect : host.fails .connect with
  | true =>
      rw [openLedger_unconnected hconnect, outerOpen_unconnected hconnect]
      exact ⟨rfl, rfl⟩
  | false =>
      rw [openLedger_session hconnect, outerOpen_session hconnect]
      simp only
      cases hbody : reserveBody sha256 (host.onFile session.file) (session.call sha256 packet run)
          (session.identity sha256) table with
      | error e =>
          cases houter : outerReserveBody (host.onFile session.file) (session.batch sha256 packet)
              run (session.identity sha256) table with
          | error e' =>
              rw [transact_of_error hbody, transact_of_error houter]
              exact ⟨rfl, rfl⟩
          | ok committed =>
              obtain ⟨evidence, record, hreserves⟩ := (reserves_iff_outerReserves hbudget).mpr
                ⟨_, outerReserveBody_eq_ok_iff.mp houter⟩
              rw [reserveBody_eq_ok_iff.mpr hreserves] at hbody
              cases hbody
      | ok committed =>
          obtain ⟨⟨evidence, record⟩, next⟩ := committed
          obtain ⟨payload, houter⟩ := (reserves_iff_outerReserves hbudget).mp
            ⟨_, _, reserveBody_eq_ok_iff.mp hbody⟩
          rw [transact_of_ok hbody, transact_of_ok (outerReserveBody_eq_ok_iff.mpr houter)]
          exact agree_after payload (evidence, record) session.file.path host.after
            (session.identity sha256) rfl next _ _

end Reservation

/-! ## Every interleaving -/

/-- One call on the ledger of a session. -/
inductive LedgerOp where
  /-- `broker_executor._reserve_attempt` -/
  | typed (attempt : Attempt)
  /-- `broker_outer_executor._reserve` -/
  | outer (host : Host) (packet : Sha256) (run : PreparedRun)

namespace LedgerSession

variable (sha256 : HashFunction) (session : LedgerSession)

def outerReserve (host : Host) (packet : Sha256) (run : PreparedRun) (table : Table) :
    Except Raised Json × Table :=
  BrokerLedger.outerReserve sha256 (host.onFile session.file) (session.batch sha256 packet) run table

def step (table : Table) : LedgerOp → Table
  | .typed attempt => attempt.step sha256 session.packetLimits table
  | .outer host packet run => (session.outerReserve sha256 host packet run table).2

/-- The table after any interleaving of both executors. -/
def run (ops : List LedgerOp) : Table := ops.foldl (session.step sha256) []

end LedgerSession

section Runs

variable {sha256 : HashFunction} {session : LedgerSession} {host : Host} {packet : Sha256}
  {run : PreparedRun} {table next : Table} {payload : Json}

/-- What a call of `_reserve` does to the table: nothing, or it commits a row. -/
theorem outerReserve_cases (sha256 : HashFunction) (session : LedgerSession) (host : Host)
    (packet : Sha256) (run : PreparedRun) (table : Table) :
    (∃ e, session.outerReserve sha256 host packet run table = (.error e, table)) ∨
      ∃ payload result next, OuterReserves host (session.batch sha256 packet) run
          (session.identity sha256) table next payload ∧
        session.outerReserve sha256 host packet run table = (result, next) ∧
        (result = .ok payload ∨ ∃ e, result = .error e) := by
  unfold LedgerSession.outerReserve outerReserve
  cases hconnect : host.fails .connect with
  | true =>
      rw [outerOpen_unconnected hconnect]
      exact .inl ⟨_, rfl⟩
  | false =>
      rw [outerOpen_session hconnect]
      simp only
      cases hbody : outerReserveBody (host.onFile session.file) (session.batch sha256 packet) run
          (session.identity sha256) table with
      | error e =>
          rw [transact_of_error hbody]
          exact .inl ⟨e, rfl⟩
      | ok committed =>
          obtain ⟨payload, next⟩ := committed
          rw [transact_of_ok hbody]
          refine .inr ⟨payload, _, next, outerReserveBody_eq_ok_iff.mp hbody, rfl, ?_⟩
          simp only [ok_bind]
          cases outerLedgerIdentity sha256 (host.onFile session.file).path
              (host.onFile session.file).after with
          | error e => exact .inr ⟨e, rfl⟩
          | ok after =>
              simp only [ok_bind, ensure]
              split_ifs
              · exact .inl rfl
              · exact .inr ⟨_, rfl⟩

theorem session_step_budgeted (table : Table) (op : LedgerOp)
    (hbudget : TableBudgeted session.packetLimits table) :
    TableBudgeted session.packetLimits (session.step sha256 table op) := by
  cases op with
  | typed attempt => exact step_budgeted sha256 table attempt hbudget
  | outer host packet run =>
      show TableBudgeted _ (session.outerReserve sha256 host packet run table).2
      rcases outerReserve_cases sha256 session host packet run table with
        ⟨e, hcall⟩ | ⟨payload, result, next, hreserves, hcall, -⟩
      · rw [hcall]
        exact hbudget
      · rw [hcall]
        exact hreserves.tableBudgeted hbudget

theorem session_prefix_step (table : Table) (op : LedgerOp) :
    table <+: session.step sha256 table op := by
  cases op with
  | typed attempt => exact prefix_step table attempt
  | outer host packet run =>
      show table <+: (session.outerReserve sha256 host packet run table).2
      rcases outerReserve_cases sha256 session host packet run table with
        ⟨e, hcall⟩ | ⟨payload, result, next, hreserves, hcall, -⟩
      · rw [hcall]
      · rw [hcall, hreserves.next_eq]
        exact List.prefix_append _ _

theorem session_run_budgeted (sha256 : HashFunction) (session : LedgerSession)
    (ops : List LedgerOp) : TableBudgeted session.packetLimits (session.run sha256 ops) :=
  foldl_invariant session_step_budgeted ops [] (tableBudgeted_nil _)

theorem session_from_budgeted (ops : List LedgerOp)
    (hbudget : TableBudgeted session.packetLimits table) :
    TableBudgeted session.packetLimits (ops.foldl (session.step sha256) table) :=
  foldl_invariant session_step_budgeted ops table hbudget

theorem session_prefix (ops : List LedgerOp) (table : Table) :
    table <+: ops.foldl (session.step sha256) table :=
  foldl_related (fun _ => List.prefix_rfl) List.IsPrefix.trans session_prefix_step ops table

end Runs
end AmazonSimilarSearch.BrokerLedger
