import AmazonSimilarSearch.BrokerLedger.FinalLedger

/-!
# The final ledger tells where each role stopped

A history of calls on one ledger file, each reservation with what became of its
broker, yields one execution for every reservation that succeeded. An execution
stands at one row of its packet: its ledger holds the rows up to there. The final
check accepts two executions of a history exactly when they are the last of the
two roles.
-/
namespace AmazonSimilarSearch.BrokerLedger
open Foundation

/-- The execution of a reservation that was returned. -/
def executionOf (call : ReserveCall) (ledger : BrokerLedgerEvidence) (record : Sha256) :
    BrokerExecutionEvidence :=
  { packetSha256 := call.packetSha256
    role := call.role
    attempt := call.attempt
    reservedTokens := call.reservedTokens
    reservedCostMicrousd := call.reservedCostMicrousd
    cumulativeReservedTokens := ledger.cumulativeReservedTokens
    cumulativeReservedCostMicrousd := ledger.cumulativeReservedCostMicrousd
    reservationRecordSha256 := record.text
    brokerPacketReservationLimit := call.packetReservationLimit
    brokerPacketCostLimitMicrousd := call.packetCostLimitMicrousd
    brokerPricingPolicySha256 := call.pricingPolicySha256
    brokerLedgerIdentitySha256 := ledger.brokerLedgerIdentitySha256
    ledger := ledger }

/-- The ledger file of a session. -/
structure LedgerFile where
  path : LedgerPath
  stat : LedgerStat

/-- The host finds the file of the session. -/
def Host.onFile (host : Host) (file : LedgerFile) : Host :=
  { host with path := file.path, before := some file.stat }

/-- The identity digest of a file. -/
def fileIdentitySha256 (sha256 : HashFunction) (file : LedgerFile) : String :=
  match ledgerIdentity sha256 file.path (some file.stat) with
  | .ok identity => identity.sha256.text
  | .error _ => ""

/-- The call is made on the ledger file of the session. -/
def Attempt.onFile (sha256 : HashFunction) (file : LedgerFile) (attempt : Attempt) : Attempt :=
  { attempt with
    host := attempt.host.onFile file
    expectedLedgerIdentitySha256 := fileIdentitySha256 sha256 file }

/-- Calls in the order of their transactions, each with whether the broker that followed
succeeded. -/
abbrev CallHistory := List (Attempt × Bool)

section Histories

variable (sha256 : HashFunction) (limits : String → Limits) (file : LedgerFile)

def historyStep (table : Table) (entry : Attempt × Bool) : Table :=
  (entry.1.onFile sha256 file).step sha256 limits table

/-- The table after a history. -/
def historyTable (history : CallHistory) : Table :=
  history.foldl (historyStep sha256 limits file) []

/-- The execution of one call, when it reserved and its broker succeeded. -/
def yielded (call : ReserveCall) (succeeded : Bool) :
    Except ExecutorError (BrokerLedgerEvidence × Sha256) → List BrokerExecutionEvidence
  | .ok (ledger, record) => if succeeded then [executionOf call ledger record] else []
  | .error _ => []

/-- The executions of a history that starts at a table. -/
def executionsFrom : Table → CallHistory → List BrokerExecutionEvidence
  | _, [] => []
  | table, entry :: rest =>
      yielded ((entry.1.onFile sha256 file).call limits) entry.2
          ((entry.1.onFile sha256 file).reserve sha256 limits table).1 ++
        executionsFrom (historyStep sha256 limits file table entry) rest

/-- The executions that a history yields. -/
def executions (history : CallHistory) : List BrokerExecutionEvidence :=
  executionsFrom sha256 limits file [] history

end Histories

/-! ## An execution stands at a row -/

/-- What measurements of one file and packet are bound to. -/
def ledgerBinding (sha256 : HashFunction) (limits : Limits) (identity : LedgerIdentity)
    (packetSha256 : String) : Binding :=
  { ledgerPath := identity.path
    ledgerDevice := .int identity.device
    ledgerInode := .int identity.inode
    ledgerIdentitySha256 := identity.sha256.text
    packetSha256 := packetSha256
    packetReservationLimit := limits.tokens
    packetCostLimitMicrousd := limits.cost
    pricingPolicySha256 := approvedPricingPolicySha256 sha256 }

/-- The execution accounts for a row, and its ledger holds the rows up to this one. -/
structure Accounts (sha256 : HashFunction) (limits : Limits) (identity : LedgerIdentity)
    (execution : BrokerExecutionEvidence) (before : List Row) (row : Row) : Prop where
  packetSha256 : execution.packetSha256 = row.packetSha256
  role : execution.role = row.role
  attempt : execution.attempt = row.attempt
  tokens : execution.reservedTokens = row.reservedTokens
  cost : execution.reservedCostMicrousd = row.reservedCostMicrousd
  record : ∃ digest, reservationRecordSha256 sha256 (reservationRecord row) = .ok digest ∧
    execution.reservationRecordSha256 = digest.text
  reservationLimit : execution.brokerPacketReservationLimit = limits.tokens
  costLimit : execution.brokerPacketCostLimitMicrousd = limits.cost
  pricing : execution.brokerPricingPolicySha256 = approvedPricingPolicySha256 sha256
  identitySha256 : execution.brokerLedgerIdentitySha256 = identity.sha256.text
  cumulative : execution.cumulativeReservedTokens = execution.ledger.cumulativeReservedTokens ∧
    execution.cumulativeReservedCostMicrousd = execution.ledger.cumulativeReservedCostMicrousd
  ledger : ∃ measured, Builds sha256 (ledgerBinding sha256 limits identity execution.packetSha256)
    ((before ++ [row]).mergeSort orderedBefore) measured execution.ledger

/-- The execution stands at a row of its packet in the table. -/
def StandsAt (sha256 : HashFunction) (limits : String → Limits) (identity : LedgerIdentity)
    (table : Table) (execution : BrokerExecutionEvidence) : Prop :=
  ∃ before row after, ofPacket table execution.packetSha256 = before ++ row :: after ∧
    Accounts sha256 (limits execution.packetSha256) identity execution before row

section Standing

variable {sha256 : HashFunction} {limits : String → Limits} {file : LedgerFile}
  {identity : LedgerIdentity} {table next : Table} {execution : BrokerExecutionEvidence}

theorem prefix_step (table : Table) (attempt : Attempt) :
    table <+: attempt.step sha256 limits table := by
  have hsettles := step_settles sha256 limits attempt table
  cases hresult : (attempt.reserve sha256 limits table).1 with
  | error e =>
      rw [hresult] at hsettles
      rcases hsettles with hsame | ⟨hcharged, -⟩
      · exact hsame.symm ▸ List.prefix_rfl
      · exact hcharged ▸ List.prefix_append _ _
  | ok result =>
      rw [hresult] at hsettles
      exact hsettles.1 ▸ List.prefix_append _ _

/-- Rows stay. -/
theorem prefix_history (history : CallHistory) (table : Table) :
    table <+: history.foldl (historyStep sha256 limits file) table :=
  foldl_related (fun _ => List.prefix_rfl) List.IsPrefix.trans
    (fun _ _ => prefix_step _ _) history table

/-- An execution stands where it stood, whatever is appended. -/
theorem StandsAt.of_prefix (h : StandsAt sha256 limits identity table execution)
    (hextends : table <+: next) : StandsAt sha256 limits identity next execution := by
  obtain ⟨before, row, after, hsplit, haccounts⟩ := h
  obtain ⟨more, rfl⟩ := hextends
  refine ⟨before, row, after ++ ofPacket more execution.packetSha256, ?_, haccounts⟩
  rw [ofPacket, List.filter_append, show table.filter _ = _ from hsplit]
  simp [ofPacket]

theorem Reserves.standsAt {host : Host} {call : ReserveCall} {evidence : BrokerLedgerEvidence}
    {record : Sha256} (h : Reserves sha256 host call identity table next evidence record)
    (htokens : call.packetReservationLimit = (limits call.packetSha256).tokens)
    (hcost : call.packetCostLimitMicrousd = (limits call.packetSha256).cost) :
    StandsAt sha256 limits identity next (executionOf call evidence record) := by
  have hpricing : call.pricingPolicySha256 = approvedPricingPolicySha256 sha256 :=
    h.evidence.accountable.pricing
  have hbinding : call.binding identity =
      ledgerBinding sha256 (limits call.packetSha256) identity call.packetSha256 := by
    simp only [ReserveCall.binding, ledgerBinding, htokens, hcost, hpricing]
  have hrows : ofPacket next call.packetSha256 =
      ofPacket table call.packetSha256 ++ [call.row host.reservedAt] := by
    rw [h.next_eq, ofPacket_append]
    exact congrArg _ (if_pos rfl)
  refine ⟨ofPacket table call.packetSha256, call.row host.reservedAt, [], hrows, ?_⟩
  refine { packetSha256 := rfl, role := rfl, attempt := rfl, tokens := rfl, cost := rfl
           record := ⟨record, h.record, rfl⟩, reservationLimit := htokens, costLimit := hcost
           pricing := hpricing, identitySha256 := ?_, cumulative := ⟨rfl, rfl⟩
           ledger := ⟨host.measuredAt.ns, ?_⟩ }
  · obtain ⟨-, -, _, _, -, -, hmade⟩ := h.evidence
    rw [← hmade]
    rfl
  · have hevidence := h.evidence
    rw [hbinding, ledgerRows, hrows] at hevidence
    exact hevidence

/-- Every execution of a history stands at a row of the table it ends in. -/
theorem standsAt_of_mem (hfile : ledgerIdentity sha256 file.path (some file.stat) = .ok identity)
    (history : CallHistory) (table : Table)
    (h : execution ∈ executionsFrom sha256 limits file table history) :
    StandsAt sha256 limits identity (history.foldl (historyStep sha256 limits file) table)
      execution := by
  induction history generalizing table with
  | nil => cases h
  | cons entry rest ih =>
      rcases List.mem_append.mp h with hhead | htail
      · refine StandsAt.of_prefix ?_ (prefix_history rest _)
        have houtcome := reserveAttempt_outcome sha256 (entry.1.onFile sha256 file).host
          ((entry.1.onFile sha256 file).call limits) table
        unfold historyStep Attempt.step
        unfold Attempt.reserve at hhead ⊢
        generalize reserveAttempt sha256 (entry.1.onFile sha256 file).host
          ((entry.1.onFile sha256 file).call limits) table = result at houtcome hhead ⊢
        cases houtcome with
        | rejected e => cases hhead
        | charged => cases hhead
        | reserved found next evidence record hopen hreserves =>
            have hfound : found = identity :=
              Except.ok.inj ((openLedger_identity hopen).symm.trans hfile)
            subst hfound
            simp only [yielded] at hhead
            split at hhead
            · rw [List.mem_singleton] at hhead
              exact hhead ▸ hreserves.standsAt rfl rfl
            · cases hhead
      · exact ih _ htail

end Standing
/-! ## The last reservation of a role -/

/-- The execution has the number of the last reservation that its role made for the packet. -/
structure LastOfRole (table : Table) (packetSha256 : String)
    (execution : BrokerExecutionEvidence) : Prop where
  packet : execution.packetSha256 = packetSha256
  last : ∃ row, (ofRole (ofPacket table packetSha256) execution.role).getLast? = some row ∧
    row.attempt = execution.attempt

section Last

variable {sha256 : HashFunction} {limits : Limits} {packetSha256 : String} {rows before after : List Row}
  {row last : Row}

theorem ofRole_split (before after : List Row) (row : Row) :
    ofRole (before ++ row :: after) row.role =
      ofRole before row.role ++ row :: ofRole after row.role := by
  simp [ofRole]

/-- After the last row of a role there is none of it. -/
theorem Budgeted.ofRole_after (h : Budgeted limits packetSha256 (before ++ row :: after))
    (hlast : (ofRole (before ++ row :: after) row.role).getLast? = some last)
    (hattempt : last.attempt = row.attempt) : ofRole after row.role = [] := by
  have hnumbered := (h.numbered row.role).pairwise_lt
  rw [ofRole_split] at hlast hnumbered
  by_contra hafter
  have hmem : last ∈ ofRole after row.role := by
    rw [List.getLast?_append_cons, List.getLast?_cons_of_ne_nil hafter] at hlast
    exact List.mem_of_getLast? hlast
  have hlt := List.rel_of_pairwise_cons (List.pairwise_append.mp hnumbered).2.1 hmem
  omega

theorem Budgeted.attempt_last (h : Budgeted limits packetSha256 rows) {role : String}
    (hlast : (ofRole rows role).getLast? = some last) : last.attempt = (ofRole rows role).length := by
  obtain ⟨init, hinit⟩ := List.getLast?_eq_some_iff.mp hlast
  have hnumbered := h.numbered role
  rw [hinit] at hnumbered ⊢
  rw [hnumbered.number_last, List.length_append, List.length_singleton]
  push_cast
  rfl

/-- The total up to a row that is not the last of the packet is short of the total. -/
theorem Budgeted.total_lt (h : Budgeted limits packetSha256 (before ++ row :: after))
    (hafter : after ≠ []) :
    totalTokens (before ++ [row]) < totalTokens (before ++ row :: after) := by
  have hsplit : before ++ row :: after = (before ++ [row]) ++ after := by simp
  rw [hsplit] at h ⊢
  exact sum_map_lt_append (fun other hother => (h.checked other hother).positive.1) hafter

/-- Of two rows that are the last of the two roles, one is the last of the packet. -/
theorem Budgeted.last_of_roles (h : Budgeted limits packetSha256 rows)
    {beforeA afterA beforeB afterB : List Row} {rowA rowB : Row}
    (hA : rows = beforeA ++ rowA :: afterA) (hB : rows = beforeB ++ rowB :: afterB)
    (hroles : (rowA.role = "reviewer" ∧ rowB.role = "adversary") ∨
      (rowA.role = "adversary" ∧ rowB.role = "reviewer"))
    (hafterA : ofRole afterA rowA.role = []) (hafterB : ofRole afterB rowB.role = []) :
    (afterA = [] ∧ afterB ≠ []) ∨ (afterA ≠ [] ∧ afterB = []) := by
  have hdistinct : rowA.role ≠ rowB.role := by
    rcases hroles with ⟨ha, hb⟩ | ⟨ha, hb⟩ <;> simp [ha, hb]
  -- what follows both rows has no role left
  have hnone : ∀ other, other ∈ afterA → other ∉ afterB := by
    intro other hotherA hotherB
    have hrole : other.role ∈ roles := (h.checked other (hA ▸ by simp [hotherA])).role
    have hneA : other.role ≠ rowA.role := fun heq => by
      have hmem : other ∈ ofRole afterA rowA.role := mem_ofRole.mpr ⟨hotherA, heq⟩
      simp [hafterA] at hmem
    have hneB : other.role ≠ rowB.role := fun heq => by
      have hmem : other ∈ ofRole afterB rowB.role := mem_ofRole.mpr ⟨hotherB, heq⟩
      simp [hafterB] at hmem
    simp only [roles, List.mem_cons, List.not_mem_nil, or_false] at hrole
    rcases hroles with ⟨ha, hb⟩ | ⟨ha, hb⟩
    · exact hrole.elim (fun h => hneA (h.trans ha.symm)) fun h => hneB (h.trans hb.symm)
    · exact hrole.elim (fun h => hneB (h.trans hb.symm)) fun h => hneA (h.trans ha.symm)
  have hlast : (rowA :: afterA).getLast? = (rowB :: afterB).getLast? := by
    have hsame := congrArg List.getLast? (hA.symm.trans hB)
    rwa [List.getLast?_append_cons, List.getLast?_append_cons] at hsame
  by_cases hnilA : afterA = []
  · refine .inl ⟨hnilA, fun hnilB => hdistinct ?_⟩
    subst hnilA hnilB
    exact congrArg Row.role (Option.some.inj hlast)
  · refine .inr ⟨hnilA, ?_⟩
    by_contra hnilB
    rw [List.getLast?_cons_of_ne_nil hnilA, List.getLast?_cons_of_ne_nil hnilB] at hlast
    obtain ⟨other, hother⟩ := Option.isSome_iff_exists.mp
      (List.getLast?_isSome.mpr hnilA)
    exact hnone other (List.mem_of_getLast? hother) (List.mem_of_getLast? (hlast ▸ hother))

end Last
/-! ## The final check -/

section Exact

variable {sha256 : HashFunction} {limits : String → Limits} {identity : LedgerIdentity}
  {table : Table} {packetSha256 : String} {final : BrokerLedgerEvidence} {now : UnixTime}
  {measured : ℤ} {a b execution : BrokerExecutionEvidence}

/-- A measurement of the file, for a packet of a table under its limits. -/
structure Measures (sha256 : HashFunction) (limits : String → Limits) (identity : LedgerIdentity)
    (table : Table) (packetSha256 : String) (final : BrokerLedgerEvidence) : Prop where
  budgeted : TableBudgeted limits table
  ofFile : (ledgerBinding sha256 (limits packetSha256) identity packetSha256).OfFile sha256
  builds : ∃ measured, Builds sha256
    (ledgerBinding sha256 (limits packetSha256) identity packetSha256)
    (ledgerRows table packetSha256) measured final

theorem Measures.ownExpected
    (h : Measures sha256 limits identity table packetSha256 final) : final.ownExpected =
      (ledgerBinding sha256 (limits packetSha256) identity packetSha256).expected := by
  obtain ⟨_, -, -, _, _, -, -, rfl⟩ := h.builds
  rfl

theorem Measures.validated (h : Measures sha256 limits identity table packetSha256 final)
    (now : UnixTime) : validatedLedgerRecords sha256 now final.ownExpected final =
      .ok ((ledgerRows table packetSha256).map reservationRecord) := by
  obtain ⟨_, hbuilds⟩ := h.builds
  rw [h.ownExpected]
  exact hbuilds.validated h.ofFile now

/-- An execution at which its role stops is the last of its role. -/
theorem StopsAt.lastOfRole {row : Row}
    (h : StopsAt sha256 final (ledgerRows table packetSha256) execution row)
    (hmeasures : Measures sha256 limits identity table packetSha256 final) :
    LastOfRole table packetSha256 execution := by
  have hbudget := hmeasures.budgeted packetSha256
  have hattempts := h.attempts
  have hlast := h.last
  rw [ofRole_ledgerRows hbudget] at hattempts hlast
  have hcount := countUp_injective ((hbudget.numbered execution.role).symm.trans hattempts)
  have hnumber := hbudget.attempt_last hlast
  have hpositive : 0 < (ofRole (ofPacket table packetSha256) execution.role).length :=
    List.length_pos_of_mem (List.mem_of_getLast? hlast)
  obtain ⟨_, -, -, _, _, -, -, rfl⟩ := hmeasures.builds
  exact ⟨h.packetSha256, row, hlast, by omega⟩

/-- The row at which an execution stands, when it is the last of its role. -/
theorem LastOfRole.split (hlast : LastOfRole table packetSha256 execution)
    (hstands : StandsAt sha256 limits identity table execution)
    (hbudget : TableBudgeted limits table) :
    ∃ before row after, ofPacket table packetSha256 = before ++ row :: after ∧
      ofRole after row.role = [] ∧
      Accounts sha256 (limits packetSha256) identity execution before row := by
  obtain ⟨rfl, last, hgetLast, hattempt⟩ := hlast
  obtain ⟨before, row, after, hsplit, haccounts⟩ := hstands
  refine ⟨before, row, after, hsplit, ?_, haccounts⟩
  have hrows := hbudget execution.packetSha256
  rw [hsplit] at hrows hgetLast
  rw [haccounts.role] at hgetLast
  exact hrows.ofRole_after hgetLast (hattempt.trans haccounts.attempt)

/-- The total of an execution is that of the rows up to its own. -/
theorem Accounts.cumulative_eq {before : List Row} {row : Row} {limits : Limits}
    (h : Accounts sha256 limits identity execution before row) :
    execution.cumulativeReservedTokens = totalTokens (before ++ [row]) := by
  obtain ⟨_, -, -, _, _, -, -, hmade⟩ := h.ledger
  rw [h.cumulative.1, ← hmade]
  exact sum_map_mergeSort _ _ _

/-- What the loop finds for an execution at which its role stopped. -/
theorem checkExecution_of_last {before after : List Row} {row : Row}
    (hmeasures : Measures sha256 limits identity table packetSha256 final)
    (hsplit : ofPacket table packetSha256 = before ++ row :: after)
    (hafter : ofRole after row.role = [])
    (h : Accounts sha256 (limits packetSha256) identity execution before row)
    (hpacket : execution.packetSha256 = packetSha256) (now : UnixTime) :
    checkExecution sha256 now final ((ledgerRows table packetSha256).map reservationRecord)
      execution = .ok () := by
  have hbudget := hmeasures.budgeted packetSha256
  have hrole : ofRole (ledgerRows table packetSha256) execution.role =
      ofRole before row.role ++ [row] := by
    rw [ofRole_ledgerRows hbudget, hsplit, h.role, ofRole_split, hafter]
  have hnumbered := hbudget.numbered execution.role
  rw [← ofRole_ledgerRows hbudget, hrole] at hnumbered
  have hattempt := h.attempt.trans hnumbered.number_last
  obtain ⟨_, hledger⟩ := h.ledger
  subst hpacket
  rw [checkExecution_eq_ok_iff]
  refine ⟨⟨row, ?_⟩, ((before ++ [row]).mergeSort orderedBefore).map reservationRecord, ?_, ?_⟩
  · obtain ⟨_, -, -, _, _, -, -, rfl⟩ := hmeasures.builds
    refine { attempts := ?_, last := ?_, tokens := h.tokens.symm, cost := h.cost.symm
             record := h.record, packetSha256 := rfl, identity := h.identitySha256
             reservationLimit := h.reservationLimit, costLimit := h.costLimit
             pricing := h.pricing, cumulative := h.cumulative }
    · rw [hrole]
      have hcount : execution.attempt.toNat = (ofRole before row.role ++ [row]).length := by
        rw [List.length_append, List.length_singleton]
        omega
      rw [hcount]
      exact hnumbered
    · rw [hrole, List.getLast?_concat]
  · rw [hmeasures.ownExpected]
    exact hledger.validated hmeasures.ofFile now
  · intro record hrecord
    obtain ⟨other, hother, rfl⟩ := List.mem_map.mp hrecord
    have hmem : other ∈ ledgerRows table execution.packetSha256 := by
      rw [mem_ledgerRows, hsplit]
      rcases List.mem_append.mp (List.mem_mergeSort.mp hother) with hbefore | hrow
      · exact List.mem_append_left _ hbefore
      · exact List.mem_append_right _ (List.mem_singleton.mp hrow ▸ List.mem_cons_self)
    exact List.any_eq_true.mpr ⟨_, List.mem_map_of_mem hmem, pyEq_reservationRecord other⟩

/-- The execution that has seen the whole ledger holds its records. -/
theorem Accounts.records_eq {before : List Row} {row : Row}
    (h : Accounts sha256 (limits packetSha256) identity execution before row)
    (hmeasures : Measures sha256 limits identity table packetSha256 final)
    (hsplit : ofPacket table packetSha256 = before ++ [row])
    (hpacket : execution.packetSha256 = packetSha256) :
    execution.ledger.records = final.records ∧
      execution.ledger.recordsSha256 = final.recordsSha256 ∧
      execution.cumulativeReservedTokens = final.cumulativeReservedTokens := by
  have hcumulative := h.cumulative_eq
  obtain ⟨_, -, -, records, _, hrecords, -, hmade⟩ := h.ledger
  obtain ⟨_, -, -, records', _, hrecords', -, hmade'⟩ := hmeasures.builds
  rw [ledgerRows, hsplit, ← hpacket] at hrecords'
  have hsame : records = records' := Except.ok.inj (hrecords.symm.trans hrecords')
  subst hsame
  rw [← hmade, ← hmade']
  refine ⟨rfl, rfl, hcumulative.trans ?_⟩
  exact ((totalTokens_ledgerRows table packetSha256).trans (congrArg _ hsplit)).symm

/-- The totals tell the two executions apart, and the later one has the total of the ledger. -/
theorem checkTotals_of_last {beforeA beforeB afterB : List Row} {rowA rowB : Row}
    (hmeasures : Measures sha256 limits identity table packetSha256 final)
    (hA : ofPacket table packetSha256 = beforeA ++ [rowA])
    (hB : ofPacket table packetSha256 = beforeB ++ rowB :: afterB) (hafter : afterB ≠ [])
    (ha : Accounts sha256 (limits packetSha256) identity a beforeA rowA)
    (hb : Accounts sha256 (limits packetSha256) identity b beforeB rowB)
    (hpacket : a.packetSha256 = packetSha256) :
    checkTotals final a b = .ok () ∧ checkTotals final b a = .ok () := by
  have hlt : b.cumulativeReservedTokens < a.cumulativeReservedTokens := by
    rw [ha.cumulative_eq, hb.cumulative_eq, ← hA, hB]
    exact (hB ▸ hmeasures.budgeted packetSha256).total_lt hafter
  obtain ⟨hrecords, hdigest, htotal⟩ := ha.records_eq hmeasures hA hpacket
  have hlatest : latest a b = a := if_neg (by omega)
  have hlatest' : latest b a = a := if_pos hlt
  simp only [checkTotals, ensure_eq_ok_iff, hlatest, hlatest']
  exact ⟨⟨hlt.ne', by omega, hrecords, hdigest⟩, hlt.ne, by omega, hrecords, hdigest⟩

/-- Whatever is accepted shows the last reservation of either role. -/
theorem lastOfRoles_of_validate {executions : List BrokerExecutionEvidence}
    {result : BrokerLedgerEvidence}
    (hmeasures : Measures sha256 limits identity table packetSha256 final)
    (h : validateFinalLedger sha256 now executions final = .ok result) :
    ∃ a b, executions = [a, b] ∧ bothRoles a b ∧
      (LastOfRole table packetSha256 a ∧
        ∃ row, StopsAt sha256 final (ledgerRows table packetSha256) a row) ∧
      (LastOfRole table packetSha256 b ∧
        ∃ row, StopsAt sha256 final (ledgerRows table packetSha256) b row) := by
  obtain ⟨a, b, records, rfl, hroles, hrecords, ha, hb, -, -⟩ :=
    validateFinalLedger_eq_ok_iff.mp h
  cases (hmeasures.validated now).symm.trans hrecords
  obtain ⟨⟨rowA, hstopsA⟩, -⟩ := checkExecution_eq_ok_iff.mp ha
  obtain ⟨⟨rowB, hstopsB⟩, -⟩ := checkExecution_eq_ok_iff.mp hb
  exact ⟨a, b, rfl, hroles, ⟨hstopsA.lastOfRole hmeasures, rowA, hstopsA⟩,
    hstopsB.lastOfRole hmeasures, rowB, hstopsB⟩

/-- The last executions of the two roles are accepted, in either order. -/
theorem validate_of_lastOfRoles
    (hmeasures : Measures sha256 limits identity table packetSha256 final)
    (hroles : bothRoles a b) (ha : StandsAt sha256 limits identity table a)
    (hb : StandsAt sha256 limits identity table b) (hlastA : LastOfRole table packetSha256 a)
    (hlastB : LastOfRole table packetSha256 b) (now : UnixTime) :
    validateFinalLedger sha256 now [a, b] final = .ok final := by
  obtain ⟨beforeA, rowA, afterA, hsplitA, hafterA, haccountsA⟩ :=
    hlastA.split ha hmeasures.budgeted
  obtain ⟨beforeB, rowB, afterB, hsplitB, hafterB, haccountsB⟩ :=
    hlastB.split hb hmeasures.budgeted
  have hcheckA := checkExecution_of_last hmeasures hsplitA hafterA haccountsA hlastA.packet now
  have hcheckB := checkExecution_of_last hmeasures hsplitB hafterB haccountsB hlastB.packet now
  have hrowRoles : (rowA.role = "reviewer" ∧ rowB.role = "adversary") ∨
      (rowA.role = "adversary" ∧ rowB.role = "reviewer") := by
    rw [← haccountsA.role, ← haccountsB.role]
    exact hroles
  have htotals : checkTotals final a b = .ok () := by
    rcases (hmeasures.budgeted packetSha256).last_of_roles hsplitA hsplitB hrowRoles hafterA
      hafterB with ⟨rfl, hne⟩ | ⟨hne, rfl⟩
    · exact (checkTotals_of_last hmeasures hsplitA hsplitB hne haccountsA haccountsB
        hlastA.packet).1
    · exact (checkTotals_of_last hmeasures hsplitB hsplitA hne haccountsB haccountsA
        hlastB.packet).2
  exact validateFinalLedger_eq_ok_iff.mpr ⟨a, b, _, rfl, hroles, hmeasures.validated now, hcheckA,
    hcheckB, htotals, rfl⟩

end Exact

/-! ## Every history -/

/-- The final check is exact for a final ledger: what it accepts shows the last reservation of
either role, and of the executions of the history it accepts just those two. -/
structure ExactCheck (sha256 : HashFunction) (now : UnixTime) (table : Table)
    (packetSha256 : String) (yielded : List BrokerExecutionEvidence)
    (final : BrokerLedgerEvidence) : Prop where
  sound : ∀ presented result, validateFinalLedger sha256 now presented final = .ok result →
    ∃ a b, presented = [a, b] ∧ bothRoles a b ∧
      (LastOfRole table packetSha256 a ∧
        ∃ row, StopsAt sha256 final (ledgerRows table packetSha256) a row) ∧
      (LastOfRole table packetSha256 b ∧
        ∃ row, StopsAt sha256 final (ledgerRows table packetSha256) b row)
  exact_iff : ∀ presented, (∀ execution ∈ presented, execution ∈ yielded) →
    (validateFinalLedger sha256 now presented final = .ok final ↔
      ∃ a b, presented = [a, b] ∧ bothRoles a b ∧ LastOfRole table packetSha256 a ∧
        LastOfRole table packetSha256 b)

theorem historyTable_budgeted (sha256 : HashFunction) (limits : String → Limits)
    (file : LedgerFile) (history : CallHistory) :
    TableBudgeted limits (historyTable sha256 limits file history) :=
  foldl_invariant (fun table _ => step_budgeted sha256 table _) history [] (tableBudgeted_nil limits)

theorem measures_of_measureBrokerLedger {sha256 : HashFunction} {limits : String → Limits}
    {file : LedgerFile} {host : Host} {packetSha256 pricing : String} {table : Table}
    {final : BrokerLedgerEvidence} (hbudget : TableBudgeted limits table)
    (h : measureBrokerLedger sha256 (host.onFile file) packetSha256
      (limits packetSha256).tokens (limits packetSha256).cost pricing table = .ok final) :
    ∃ identity, ledgerIdentity sha256 file.path (some file.stat) = .ok identity ∧
      Measures sha256 limits identity table packetSha256 final := by
  simp only [measureBrokerLedger, Host.onFile, bind_eq_ok_iff, ensure_eq_ok_iff, exists_const,
    mapError_eq_ok_iff, pure_eq_ok_iff, sql_eq_ok_iff, execute_eq_ok_iff,
    buildLedgerEvidence_rows] at h
  obtain ⟨⟨-, -, -, rfl⟩, identity, hidentity, -, -, -, evidence, hbuilds, -, after, -, -, rfl⟩ := h
  refine ⟨identity, hidentity, hbudget, ?_, _, hbuilds⟩
  simp only [ledgerIdentity, required_some, ok_bind, bind_eq_ok_iff, ensure_eq_ok_iff,
    exists_const, pure_eq_ok_iff] at hidentity
  obtain ⟨⟨-, hdevice, hinode⟩, payload, hpayload, rfl⟩ := hidentity
  exact ⟨file.path.absolute, decide_eq_true hdevice, decide_eq_true hinode, payload, hpayload, rfl⟩

theorem validateFinalLedger_exact (sha256 : HashFunction) (limits : String → Limits)
    (file : LedgerFile) (history : CallHistory) (host : Host) (packetSha256 pricing : String)
    (now : UnixTime) :
    Returned (ExactCheck sha256 now (historyTable sha256 limits file history) packetSha256
        (executions sha256 limits file history))
      (measureBrokerLedger sha256 (host.onFile file) packetSha256
        (limits packetSha256).tokens (limits packetSha256).cost pricing
        (historyTable sha256 limits file history)) := by
  rw [returned_iff]
  intro final hfinal
  obtain ⟨identity, hidentity, hmeasures⟩ := measures_of_measureBrokerLedger
    (historyTable_budgeted sha256 limits file history) hfinal
  refine ⟨fun presented result => lastOfRoles_of_validate hmeasures, fun presented hpresented => ?_⟩
  constructor
  · intro haccepted
    obtain ⟨a, b, hpair, hroles, ⟨hlastA, -⟩, hlastB, -⟩ :=
      lastOfRoles_of_validate hmeasures haccepted
    exact ⟨a, b, hpair, hroles, hlastA, hlastB⟩
  · rintro ⟨a, b, rfl, hroles, hlastA, hlastB⟩
    have hstandsA := standsAt_of_mem hidentity history [] (hpresented a (by simp))
    have hstandsB := standsAt_of_mem hidentity history [] (hpresented b (by simp))
    exact validate_of_lastOfRoles hmeasures hroles hstandsA hstandsB hlastA hlastB now

end AmazonSimilarSearch.BrokerLedger
