import AmazonSimilarSearch.BrokerLedger.Rebuild

/-!
# The budget of a packet

What every reachable table satisfies, packet by packet: each role's attempts are
numbered from one, there are at most two of them, and the totals stay within the
limits of the packet. One row that continues the numbering and fits the limits
keeps it; and rows under it are accountable in the order in which they are read.
-/
namespace AmazonSimilarSearch.BrokerLedger
open Foundation

/-- The limits of a packet; the executors' callers ask for more than that they are not negative. -/
structure Limits where
  tokens : ℤ
  cost : ℤ
  tokens_nonneg : 0 ≤ tokens
  cost_nonneg : 0 ≤ cost

/-- The rows of a packet keep its budget. -/
structure Budgeted (limits : Limits) (packetSha256 : String) (rows : List Row) : Prop where
  checked : ∀ row ∈ rows, row.Checked packetSha256
  fits : ∀ row ∈ rows, FitsInteger row.reservationUnixNs
  numbered : ∀ role, Numbered Row.attempt (ofRole rows role)
  atMostTwo : ∀ role, (ofRole rows role).length ≤ 2
  tokens : totalTokens rows ≤ limits.tokens
  cost : totalCost rows ≤ limits.cost

/-- Every packet keeps its budget. -/
def TableBudgeted (limits : String → Limits) (table : Table) : Prop :=
  ∀ packetSha256, Budgeted (limits packetSha256) packetSha256 (ofPacket table packetSha256)

section Budget

variable {limits : Limits} {packetSha256 : String} {rows : List Row} {row : Row}

theorem totalTokens_concat (rows : List Row) (row : Row) :
    totalTokens (rows ++ [row]) = totalTokens rows + row.reservedTokens := by
  simp [totalTokens]

theorem totalCost_concat (rows : List Row) (row : Row) :
    totalCost (rows ++ [row]) = totalCost rows + row.reservedCostMicrousd := by
  simp [totalCost]

theorem budgeted_nil : Budgeted limits packetSha256 [] where
  checked := by simp
  fits := by simp
  numbered _ := numbered_nil
  atMostTwo _ := Nat.zero_le _
  tokens := limits.tokens_nonneg
  cost := limits.cost_nonneg

theorem tableBudgeted_nil (limits : String → Limits) : TableBudgeted limits [] :=
  fun _ => budgeted_nil

/-- A row that continues the attempts of its role and fits the limits keeps the budget. -/
theorem Budgeted.concat (h : Budgeted limits packetSha256 rows) (hrow : row.Checked packetSha256)
    (hfits : FitsInteger row.reservationUnixNs)
    (hattempt : row.attempt = (ofRole rows row.role).length + 1)
    (htokens : totalTokens rows + row.reservedTokens ≤ limits.tokens)
    (hcost : totalCost rows + row.reservedCostMicrousd ≤ limits.cost) :
    Budgeted limits packetSha256 (rows ++ [row]) where
  checked := by
    intro other hother
    rcases List.mem_append.mp hother with hother | hother
    · exact h.checked other hother
    · exact List.mem_singleton.mp hother ▸ hrow
  fits := by
    intro other hother
    rcases List.mem_append.mp hother with hother | hother
    · exact h.fits other hother
    · exact List.mem_singleton.mp hother ▸ hfits
  numbered role := by
    rw [ofRole_append, ofRole_singleton]
    split_ifs with hrole
    · exact numbered_concat (h.numbered role) (hrole ▸ hattempt)
    · rw [List.append_nil]
      exact h.numbered role
  atMostTwo role := by
    rw [ofRole_append, ofRole_singleton]
    split_ifs with hrole
    · subst hrole
      have hbound := hrow.attempt.2
      rw [List.length_append, List.length_singleton]
      omega
    · rw [List.append_nil]
      exact h.atMostTwo role
  tokens := (totalTokens_concat rows row).trans_le htokens
  cost := (totalCost_concat rows row).trans_le hcost

theorem TableBudgeted.concat {limits : String → Limits} {table : Table}
    (h : TableBudgeted limits table) (hrow : Budgeted (limits row.packetSha256) row.packetSha256
      (ofPacket table row.packetSha256 ++ [row])) : TableBudgeted limits (table ++ [row]) := by
  intro packetSha256
  rw [ofPacket_append]
  split_ifs with hpacket
  · exact hpacket ▸ hrow
  · rw [List.append_nil]
    exact h packetSha256

/-- The attempts of one role are in order as they were made. -/
theorem Budgeted.pairwise_role (h : Budgeted limits packetSha256 rows) (role : String) :
    (ofRole rows role).Pairwise fun a b => orderedBefore a b = true := by
  refine (h.numbered role).pairwise_lt.imp_of_mem fun {a b} ha hb hlt => ?_
  have hrole : a.role = b.role := (mem_ofRole.mp ha).2.trans (mem_ofRole.mp hb).2.symm
  exact orderedBefore_iff.mpr (.inr ⟨hrole, hlt.le⟩)

end Budget

section Reading

variable {limits : Limits} {packetSha256 : String} {table : Table}

/-- The rows of a role are read in the order in which they were made. -/
theorem ofRole_ledgerRows (h : Budgeted limits packetSha256 (ofPacket table packetSha256))
    (role : String) : ofRole (ledgerRows table packetSha256) role =
      ofRole (ofPacket table packetSha256) role :=
  filter_mergeSort orderedBefore_trans orderedBefore_total (h.pairwise_role role)

theorem selectAttempts_eq (h : Budgeted limits packetSha256 (ofPacket table packetSha256))
    (role : String) : selectAttempts table packetSha256 role =
      countUp (ofRole (ofPacket table packetSha256) role).length := by
  have hsorted : (ofRole (ofPacket table packetSha256) role).Pairwise
      fun a b => decide (a.attempt ≤ b.attempt) = true :=
    (h.numbered role).pairwise_lt.imp fun hlt => decide_eq_true hlt.le
  rw [selectAttempts, List.mergeSort_of_pairwise hsorted]
  exact h.numbered role

@[simp] theorem totalTokens_ledgerRows (table : Table) (packetSha256 : String) :
    totalTokens (ledgerRows table packetSha256) = totalTokens (ofPacket table packetSha256) :=
  sum_map_mergeSort _ _ _

@[simp] theorem totalCost_ledgerRows (table : Table) (packetSha256 : String) :
    totalCost (ledgerRows table packetSha256) = totalCost (ofPacket table packetSha256) :=
  sum_map_mergeSort _ _ _

/-- The rows of a packet that keeps its budget are accountable as they are read. -/
theorem Budgeted.accountable {sha256 : HashFunction} {binding : Binding}
    (h : Budgeted limits packetSha256 (ofPacket table packetSha256))
    (hpacket : binding.packetSha256 = packetSha256)
    (htokens : binding.packetReservationLimit = limits.tokens)
    (hcost : binding.packetCostLimitMicrousd = limits.cost)
    (hpricing : binding.pricingPolicySha256 = approvedPricingPolicySha256 sha256) :
    Accountable sha256 binding (ledgerRows table packetSha256) where
  checked row hrow := hpacket ▸ h.checked row (mem_ledgerRows.mp hrow)
  contiguous role _ := by
    rw [ofRole_ledgerRows h]
    exact h.numbered role
  tokens := by
    rw [totalTokens_ledgerRows, htokens]
    exact h.tokens
  cost := by
    rw [totalCost_ledgerRows, hcost]
    exact h.cost
  pricing := hpricing

/-- What the builder needs besides accountable rows: values of the binding that have JSON
text. -/
structure Binding.Encodes (binding : Binding) : Prop where
  device : binding.ledgerDevice.Encodes
  inode : binding.ledgerInode.Encodes
  reservationLimit : (Json.int binding.packetReservationLimit).Encodes
  costLimit : (Json.int binding.packetCostLimitMicrousd).Encodes

theorem encodes_int_of_le {a b : ℤ} (ha : 0 ≤ a) (hab : a ≤ b) (hb : (Json.int b).Encodes) :
    (Json.int a).Encodes := by
  rw [Json.encodes_int_iff] at hb ⊢
  omega

theorem encodes_of_fitsInteger {value : ℤ} (h : FitsInteger value) : (Json.int value).Encodes := by
  unfold FitsInteger at h
  have hbound : value.natAbs < 2 ^ 63 + 1 := by omega
  exact Json.encodes_int (hbound.trans (by decide +kernel))

theorem encodes_reservationRecord {row : Row} (h : row.Checked packetSha256)
    (hfits : FitsInteger row.reservationUnixNs) : (reservationRecord row).Encodes := by
  have hattempt : FitsInteger row.attempt := by
    have := h.attempt
    unfold FitsInteger
    omega
  have htokens : FitsInteger row.reservedTokens := by
    have := h.reservedTokens
    unfold FitsInteger contextWindowTokens at *
    omega
  have hcost : FitsInteger row.reservedCostMicrousd := by
    have := h.reservedCostMicrousd
    unfold FitsInteger absolutePacketCostLimitMicrousd at *
    omega
  simp [reservationRecord, encodes_of_fitsInteger, *]

/-- The builder measures every packet that keeps its budget. -/
theorem Budgeted.builds {sha256 : HashFunction} {binding : Binding}
    (h : Budgeted limits packetSha256 (ofPacket table packetSha256))
    (haccountable : Accountable sha256 binding (ledgerRows table packetSha256))
    (hencodes : binding.Encodes) (now : UnixTime) :
    ∃ evidence, Builds sha256 binding (ledgerRows table packetSha256) now.ns evidence := by
  obtain ⟨hnonneg, hnonneg'⟩ := haccountable.totals_nonneg
  have htokens := encodes_int_of_le hnonneg haccountable.tokens hencodes.reservationLimit
  have hcost := encodes_int_of_le hnonneg' haccountable.cost hencodes.costLimit
  have hrecords : ∀ record ∈ (ledgerRows table packetSha256).map reservationRecord,
      record.Encodes := by
    intro record hrecord
    obtain ⟨row, hrow, rfl⟩ := List.mem_map.mp hrecord
    have hmem := mem_ledgerRows.mp hrow
    exact encodes_reservationRecord (h.checked row hmem) (h.fits row hmem)
  obtain ⟨records, hcanonical⟩ := canonicalJson_of_encodes (show (recordsPayload
    binding.packetSha256 ((ledgerRows table packetSha256).map reservationRecord)).Encodes by
      simpa [recordsPayload] using hrecords)
  obtain ⟨payload, hpayload⟩ := canonicalJson_of_encodes (show (evidencePayload binding
    (totalTokens (ledgerRows table packetSha256)) (totalCost (ledgerRows table packetSha256))
    (sha256 records).text now.ns).Encodes by
      simp only [evidencePayload, Json.encodes_obj, List.forall_mem_cons]
      exact ⟨Json.encodes_str _, hencodes.costLimit, hencodes.reservationLimit,
        Json.encodes_str _, hcost, htokens, hencodes.device, hencodes.inode, Json.encodes_str _,
        now.encodes, Json.encodes_str _, Json.encodes_str _, Json.encodes_str _, by simp⟩)
  exact ⟨_, haccountable, now.afterEpoch, records, payload, hcanonical, hpayload, rfl⟩

end Reading
end AmazonSimilarSearch.BrokerLedger
