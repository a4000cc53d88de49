import AmazonSimilarSearch.BrokerLedger.Reserve

/-!
# The budget of the broker

Processes that share a ledger call `_reserve_attempt` in any order, each call
under the limits of its packet. Every reachable table keeps the budget of every
packet; a call adds its one row or leaves the table alone; and the evidence of a
reservation is accepted again and lists the rows that are then committed.
-/
namespace AmazonSimilarSearch.BrokerLedger
open Foundation

/-- A call of one process, with what its host decides. The limits are those of its packet. -/
structure Attempt where
  host : Host
  packetSha256 : String
  role : String
  attempt : ℤ
  reservedTokens : ℤ
  reservedCostMicrousd : ℤ
  pricingPolicySha256 : String
  expectedLedgerIdentitySha256 : String

namespace Attempt

def call (limits : String → Limits) (attempt : Attempt) : ReserveCall :=
  { packetSha256 := attempt.packetSha256
    role := attempt.role
    attempt := attempt.attempt
    reservedTokens := attempt.reservedTokens
    reservedCostMicrousd := attempt.reservedCostMicrousd
    packetReservationLimit := (limits attempt.packetSha256).tokens
    packetCostLimitMicrousd := (limits attempt.packetSha256).cost
    pricingPolicySha256 := attempt.pricingPolicySha256
    expectedLedgerIdentitySha256 := attempt.expectedLedgerIdentitySha256 }

/-- The row that the call inserts. -/
def row (limits : String → Limits) (attempt : Attempt) : Row :=
  (attempt.call limits).row attempt.host.reservedAt

/-- What a reservation returns, and the table after it. -/
def reserve (sha256 : HashFunction) (limits : String → Limits) (table : Table)
    (attempt : Attempt) : Except ExecutorError (BrokerLedgerEvidence × Sha256) × Table :=
  reserveAttempt sha256 attempt.host (attempt.call limits) table

def step (sha256 : HashFunction) (limits : String → Limits) (table : Table) (attempt : Attempt) :
    Table :=
  (attempt.reserve sha256 limits table).2

/-- The table after any interleaving of calls, from the empty table. -/
def run (sha256 : HashFunction) (limits : String → Limits) (attempts : List Attempt) : Table :=
  attempts.foldl (step sha256 limits) []

end Attempt

section Safety

variable {sha256 : HashFunction} {limits : String → Limits} {table next : Table} {host : Host}
  {call : ReserveCall} {identity : LedgerIdentity} {evidence : BrokerLedgerEvidence}
  {record : Sha256}

/-- A committed row keeps the budget of its packet. -/
theorem Reserves.tableBudgeted
    (h : Reserves sha256 host call identity table next evidence record)
    (htokens : call.packetReservationLimit = (limits call.packetSha256).tokens)
    (hcost : call.packetCostLimitMicrousd = (limits call.packetSha256).cost)
    (hbudget : TableBudgeted limits table) : TableBudgeted limits next := by
  rw [h.next_eq]
  refine hbudget.concat ?_
  exact (hbudget call.packetSha256).concat h.checked h.fitsTime h.attempt (h.tokens.trans_eq htokens)
    (h.cost.trans_eq hcost)

theorem step_budgeted (sha256 : HashFunction) (table : Table) (attempt : Attempt) (hbudget : TableBudgeted limits table) :
    TableBudgeted limits (attempt.step sha256 limits table) := by
  have houtcome := reserveAttempt_outcome sha256 attempt.host (attempt.call limits) table
  unfold Attempt.step Attempt.reserve
  generalize reserveAttempt sha256 attempt.host (attempt.call limits) table = result at houtcome ⊢
  cases houtcome with
  | rejected e => exact hbudget
  | reserved identity next evidence record hopen hreserves =>
      exact hreserves.tableBudgeted rfl rfl hbudget
  | charged identity next evidence record e hopen hreserves hafter =>
      exact hreserves.tableBudgeted rfl rfl hbudget

/-- Every reachable table keeps every budget. -/
theorem run_budgeted (sha256 : HashFunction) (limits : String → Limits)
    (attempts : List Attempt) : TableBudgeted limits (Attempt.run sha256 limits attempts) :=
  foldl_invariant (step_budgeted sha256) attempts [] (tableBudgeted_nil limits)

theorem Reserves.validated (h : Reserves sha256 host call identity table next evidence record)
    (hopen : openLedger sha256 host call = .ok identity) (now : UnixTime) :
    validatedLedgerRecords sha256 now (call.binding identity).expected evidence =
      .ok ((ledgerRows next call.packetSha256).map reservationRecord) :=
  h.evidence.validated (ofFile_of_openLedger hopen).1 now

/-- The totals of a packet after one more row. -/
theorem totals_le_append (hbudget : TableBudgeted limits (table ++ [row])) (packetSha256 : String) :
    totalTokens (ofPacket table packetSha256) ≤ totalTokens (ofPacket (table ++ [row]) packetSha256) ∧
      totalCost (ofPacket table packetSha256) ≤
        totalCost (ofPacket (table ++ [row]) packetSha256) := by
  have hchecked := (hbudget packetSha256).checked
  rw [ofPacket_append] at hchecked ⊢
  exact ⟨sum_map_le_append fun row hrow => (hchecked row hrow).positive.1,
    sum_map_le_append fun row hrow => (hchecked row hrow).positive.2⟩

end Safety

/-! ## The ledger invariant -/

/-- What one call may report, with the table before and after it. -/
def Settles (sha256 : HashFunction) (limits : String → Limits) (attempt : Attempt)
    (table after : Table) : Except ExecutorError (BrokerLedgerEvidence × Sha256) → Prop
  | .error _ => after = table ∨ (after = table ++ [attempt.row limits] ∧
      ledgerIdentity sha256 attempt.host.path attempt.host.after ≠
        ledgerIdentity sha256 attempt.host.path attempt.host.before)
  | .ok (evidence, _) => after = table ++ [attempt.row limits] ∧
      attempt.row limits ∈ ledgerRows after attempt.packetSha256 ∧
      ∀ now, validatedLedgerRecords sha256 now
        { packetSha256 := attempt.packetSha256
          packetReservationLimit := (limits attempt.packetSha256).tokens
          packetCostLimitMicrousd := (limits attempt.packetSha256).cost
          pricingPolicySha256 := attempt.pricingPolicySha256 } evidence =
        .ok ((ledgerRows after attempt.packetSha256).map reservationRecord)

/-- In a table and across one more call, the budget of a packet is kept. -/
structure KeepsBudget (sha256 : HashFunction) (limits : String → Limits) (packetSha256 : String)
    (attempt : Attempt) (table : Table) : Prop where
  attempts : ∀ role, ∃ n ≤ 2, selectAttempts table packetSha256 role = countUp n
  tokens : totalTokens (ofPacket table packetSha256) ≤ (limits packetSha256).tokens
  cost : totalCost (ofPacket table packetSha256) ≤ (limits packetSha256).cost
  tokens_mono : totalTokens (ofPacket table packetSha256) ≤
    totalTokens (ofPacket (attempt.step sha256 limits table) packetSha256)
  cost_mono : totalCost (ofPacket table packetSha256) ≤
    totalCost (ofPacket (attempt.step sha256 limits table) packetSha256)
  settles : Settles sha256 limits attempt table (attempt.step sha256 limits table)
    (attempt.reserve sha256 limits table).1

theorem openLedger_identity {sha256 : HashFunction} {host : Host} {call : ReserveCall}
    {identity : LedgerIdentity} (h : openLedger sha256 host call = .ok identity) :
    ledgerIdentity sha256 host.path host.before = .ok identity := by
  simp only [openLedger, bind_eq_ok_iff, ensure_eq_ok_iff, exists_const, pure_eq_ok_iff,
    sql_eq_ok_iff, execute_eq_ok_iff] at h
  obtain ⟨found, hfound, -, -, rfl⟩ := h
  exact hfound

theorem step_settles (sha256 : HashFunction) (limits : String → Limits) (attempt : Attempt)
    (table : Table) : Settles sha256 limits attempt table (attempt.step sha256 limits table)
      (attempt.reserve sha256 limits table).1 := by
  have houtcome := reserveAttempt_outcome sha256 attempt.host (attempt.call limits) table
  unfold Attempt.step Attempt.reserve
  generalize reserveAttempt sha256 attempt.host (attempt.call limits) table = result at houtcome ⊢
  cases houtcome with
  | rejected e => exact .inl rfl
  | reserved identity next evidence record hopen hreserves =>
      exact ⟨hreserves.next_eq, hreserves.mem_ledgerRows, hreserves.validated hopen⟩
  | charged identity next evidence record e hopen hreserves hafter =>
      exact .inr ⟨hreserves.next_eq, openLedger_identity hopen ▸ hafter⟩

theorem step_totals (sha256 : HashFunction) {limits : String → Limits} {table : Table}
    (attempt : Attempt) (hbudget : TableBudgeted limits table) (packetSha256 : String) :
    totalTokens (ofPacket table packetSha256) ≤
        totalTokens (ofPacket (attempt.step sha256 limits table) packetSha256) ∧
      totalCost (ofPacket table packetSha256) ≤
        totalCost (ofPacket (attempt.step sha256 limits table) packetSha256) := by
  have hnext := step_budgeted sha256 table attempt hbudget
  have hsettles := step_settles sha256 limits attempt table
  cases hresult : (attempt.reserve sha256 limits table).1 with
  | error e =>
      rw [hresult] at hsettles
      rcases hsettles with hsame | ⟨hcharged, -⟩
      · rw [hsame]
        exact ⟨le_rfl, le_rfl⟩
      · rw [hcharged] at hnext ⊢
        exact totals_le_append hnext packetSha256
  | ok result =>
      rw [hresult] at hsettles
      rw [hsettles.1] at hnext ⊢
      exact totals_le_append hnext packetSha256

theorem reserveAttempt_keepsBudget (sha256 : HashFunction) (limits : String → Limits)
    (attempts : List Attempt) (packetSha256 : String) (attempt : Attempt) :
    KeepsBudget sha256 limits packetSha256 attempt (Attempt.run sha256 limits attempts) := by
  have hbudget := run_budgeted sha256 limits attempts
  have htotals := step_totals sha256 attempt hbudget packetSha256
  exact { attempts := fun role =>
            ⟨_, (hbudget packetSha256).atMostTwo role, selectAttempts_eq (hbudget packetSha256) role⟩
          tokens := (hbudget packetSha256).tokens
          cost := (hbudget packetSha256).cost
          tokens_mono := htotals.1
          cost_mono := htotals.2
          settles := step_settles sha256 limits attempt _ }

/-! ## A call that raises after its commit -/

section LateIdentity

variable {sha256 : HashFunction} {host : Host} {call : ReserveCall} {identity : LedgerIdentity}

theorem Row.Checked.constraints {packetSha256 : String} {row : Row}
    (h : row.Checked packetSha256) : row.Constraints :=
  ⟨h.role, h.attempt, h.positive.1, h.positive.2, h.reservationUnixNs⟩

/-- The first reservation of a table commits where no statement fails and the builder accepts
the row. -/
theorem reserves_first (sha256 : HashFunction) (host : Host) (identity : LedgerIdentity)
    (hruns : ∀ statement, host.fails statement = false)
    (hrow : (call.row host.reservedAt).Checked call.packetSha256)
    (hinsert : insertRow [] (call.row host.reservedAt) = .ok [call.row host.reservedAt])
    (hattempt : call.attempt = 1)
    (htokens : call.reservedTokens ≤ call.packetReservationLimit)
    (hcost : call.reservedCostMicrousd ≤ call.packetCostLimitMicrousd)
    (hpricing : call.pricingPolicySha256 = approvedPricingPolicySha256 sha256)
    (hencodes : (call.binding identity).Encodes) :
    ∃ evidence record, Reserves sha256 host call identity [] [call.row host.reservedAt]
      evidence record := by
  have htokens_pos : 0 < call.reservedTokens := hrow.positive.1
  have hcost_pos : 0 < call.reservedCostMicrousd := hrow.positive.2
  let limits : Limits :=
    ⟨call.packetReservationLimit, call.packetCostLimitMicrousd, by omega, by omega⟩
  have hfits := (insertRow_eq_ok_iff.mp hinsert).1.2.2.2
  have hempty : ofPacket [] call.packetSha256 = [] := rfl
  have hbudget : Budgeted limits call.packetSha256
      (ofPacket ([] ++ [call.row host.reservedAt]) call.packetSha256) := by
    rw [ofPacket_append, show (call.row host.reservedAt).packetSha256 = call.packetSha256 from rfl,
      if_pos rfl]
    exact budgeted_nil.concat hrow hfits hattempt ((zero_add _).trans_le htokens)
      ((zero_add _).trans_le hcost)
  have haccountable : Accountable sha256 (call.binding identity)
      (ledgerRows ([] ++ [call.row host.reservedAt]) call.packetSha256) :=
    hbudget.accountable rfl rfl rfl hpricing
  obtain ⟨evidence, hevidence⟩ := hbudget.builds haccountable hencodes host.measuredAt
  obtain ⟨raw, hraw⟩ := canonicalJson_of_encodes (encodes_reservationRecord hrow hfits)
  refine ⟨evidence, sha256 (reservationRecordDomain ++ raw), ?_⟩
  exact { runs := fun statement _ => hruns statement
          numbered := by simp [selectAttempts, hempty, ofRole, countUp]
          atMostTwo := by simp [hempty, ofRole]
          attempt := by simpa [hempty, ofRole] using hattempt
          fits := by simp [hempty, totalTokens, totalCost, FitsInteger]
          tokens := by simpa [hempty, totalTokens] using htokens
          cost := by simpa [hempty, totalCost] using hcost
          inserted := hinsert
          evidence := hevidence
          record := by simp only [reservationRecordSha256, hraw, ok_bind]; rfl }

theorem openLedger_of_expected (hconnect : sql (execute host.fails .connect) = .ok ⟨⟩)
    (hfound : ledgerIdentity sha256 host.path host.before = .ok identity)
    (hexpected : call.expectedLedgerIdentitySha256 = identity.sha256.text) :
    openLedger sha256 host call = .ok identity := by
  rw [openLedger, hfound, ok_bind, hconnect, ok_bind,
    ensure_of _ ⟨hexpected ▸ isSha256_text _, hexpected.symm⟩, ok_bind]
  rfl

/-- A call that commits and then finds another file, or none, has charged its row. -/
theorem charges_of_reserves {table next : Table} {evidence : BrokerLedgerEvidence}
    {record : Sha256} (hopen : openLedger sha256 host call = .ok identity)
    (h : Reserves sha256 host call identity table next evidence record)
    (hafter : host.after = none) :
    reserveAttempt sha256 host call table = (.error invalidLedger, next) := by
  simp only [reserveAttempt, hopen, transact_of_ok (reserveBody_eq_ok_iff.mpr h), ok_bind, hafter,
    ledgerIdentity]
  rfl

end LateIdentity

/-- A private file. -/
def lateStat : LedgerStat :=
  { device := 1, inode := 2, isRegular := true, links := 1, mode := 0o600
    device_within := by decide, inode_within := by decide }

/-- After the commit the file is gone. -/
def lateHost : Host :=
  { path := ⟨"/ledger", by decide, by decide⟩
    before := some lateStat, after := none, fails := fun _ => false
    reservedAt := ⟨1, by decide, by decide⟩, measuredAt := ⟨2, by decide, by decide⟩ }

def lateIdentity : LedgerIdentity :=
  ⟨"/ledger", lateStat.device, lateStat.inode, sha256 (identityDomain ++ (Json.compact?
    (identityPayload (.int lateStat.device) (.int lateStat.inode) "/ledger")).getD [])⟩

def lateCall : ReserveCall :=
  { packetSha256 := "packet"
    role := "reviewer"
    attempt := 1
    reservedTokens := 12000
    reservedCostMicrousd := 360000
    packetReservationLimit := 544000
    packetCostLimitMicrousd := 3970000
    pricingPolicySha256 := approvedPricingPolicySha256 sha256
    expectedLedgerIdentitySha256 := lateIdentity.sha256.text }

theorem openLedger_late : openLedger sha256 lateHost lateCall = .ok lateIdentity := by
  have hencodes : (identityPayload (.int 1) (.int 2) "/ledger").Encodes := by
    have hdevice : (Json.int 1).Encodes := encodes_of_fitsInteger (by decide)
    have hinode : (Json.int 2).Encodes := encodes_of_fitsInteger (by decide)
    simp [identityPayload, hdevice, hinode]
  obtain ⟨raw, hraw⟩ := canonicalJson_of_encodes hencodes
  have hcompact := canonicalJson_eq_ok_iff.mp hraw
  have hidentity : lateIdentity = ⟨"/ledger", 1, 2, sha256 (identityDomain ++ raw)⟩ := by
    simp only [lateIdentity, lateStat, hcompact, Option.getD_some]
  have hfound : ledgerIdentity sha256 lateHost.path lateHost.before = .ok lateIdentity := by
    rw [hidentity]
    simp only [ledgerIdentity, lateHost, required_some, ok_bind]
    rw [ensure_of _ ⟨by decide, by decide, by decide⟩, ok_bind]
    simp only [lateStat, hraw, ok_bind]
    rfl
  have hexpected : lateCall.expectedLedgerIdentitySha256 = lateIdentity.sha256.text := by
    simp only [lateCall]
  exact openLedger_of_expected rfl hfound hexpected

/-- A failing reservation need not leave the ledger as it was. -/
theorem failing_reservation_charged :
    reserveAttempt sha256 lateHost lateCall [] =
      (.error invalidLedger, [lateCall.row lateHost.reservedAt]) := by
  have hrow : (lateCall.row lateHost.reservedAt).Checked lateCall.packetSha256 :=
    ⟨rfl, by decide, by decide, by decide, by decide, by decide⟩
  have hinsert : insertRow [] (lateCall.row lateHost.reservedAt) =
      .ok [lateCall.row lateHost.reservedAt] := by
    rw [insertRow_eq_ok_iff]
    exact ⟨by decide, ⟨hrow.constraints, by simp⟩, rfl⟩
  have hencodes : (lateCall.binding lateIdentity).Encodes :=
    ⟨encodes_of_fitsInteger (by decide), encodes_of_fitsInteger (by decide),
      encodes_of_fitsInteger (by decide), encodes_of_fitsInteger (by decide)⟩
  obtain ⟨evidence, record, hreserves⟩ := reserves_first sha256 lateHost lateIdentity
    (fun _ => rfl) hrow hinsert rfl (by decide) (by decide) rfl hencodes
  exact charges_of_reserves openLedger_late hreserves rfl

end AmazonSimilarSearch.BrokerLedger
