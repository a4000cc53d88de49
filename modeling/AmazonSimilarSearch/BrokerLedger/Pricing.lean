import AmazonSimilarSearch.Foundation.Checked
import AmazonSimilarSearch.Foundation.Ceilings
import Mathlib.Algebra.BigOperators.Ring.List
import Mathlib.Tactic.Linarith

/-!
# The cost cap of a packet

`reserve_request_cost_microusd` and `maximum_packet_cost_microusd` of
`pricing_policy.py`. A request is priced by itself, its input and its output
tokens each rounded up to a whole micro-dollar. The cap prices one split of the
token limit, in which all requests but one are full or empty, so it contains
fewer round-ups than a split into requests of about equal size.
-/
namespace AmazonSimilarSearch.BrokerLedger
open Foundation

/-- `TOKENS_PER_RATE_UNIT` -/
def tokensPerRateUnit : ℤ := 1000000

/-- `MULTIPLIER_SCALE` -/
def multiplierScale : ℤ := 1000000

/-- `MAX_REVIEW_INPUT_TOKENS` -/
def maxReviewInputTokens : ℤ := 260000

/-- `MAX_REVIEW_OUTPUT_TOKENS` -/
def maxReviewOutputTokens : ℤ := 12000

/-- The numbers of an `OpenAIPricingPolicy`. -/
structure OpenAIPricingPolicy where
  inputMicrousdPerMillionTokens : ℤ
  cachedInputMicrousdPerMillionTokens : ℤ
  cacheWriteInputMicrousdPerMillionTokens : ℤ
  outputMicrousdPerMillionTokens : ℤ
  longContextThresholdInputTokens : ℤ
  longContextInputMultiplierPpm : ℤ
  longContextOutputMultiplierPpm : ℤ

/-- `PricingPolicyError` -/
inductive PricingPolicyError where
  | pricingPolicyError (message : String)
  deriving DecidableEq, Repr

def invalidReservation (label : String) : PricingPolicyError :=
  .pricingPolicyError ("review " ++ label ++ " token reservation is invalid")

/-- `reserve_request_cost_microusd` -/
def reserveRequestCostMicrousd (policy : OpenAIPricingPolicy) (inputTokens outputTokens : ℤ) :
    Except PricingPolicyError ℤ := do
  ensure (0 ≤ inputTokens ∧ inputTokens ≤ maxReviewInputTokens) (invalidReservation "input")
  ensure (0 ≤ outputTokens ∧ outputTokens ≤ maxReviewOutputTokens) (invalidReservation "output")
  let inputRate := max (max policy.inputMicrousdPerMillionTokens
    policy.cachedInputMicrousdPerMillionTokens) policy.cacheWriteInputMicrousdPerMillionTokens
  let outputRate := policy.outputMicrousdPerMillionTokens
  let rates :=
    if policy.longContextThresholdInputTokens < inputTokens then
      (ceilRatio (inputRate * policy.longContextInputMultiplierPpm) multiplierScale,
        ceilRatio (outputRate * policy.longContextOutputMultiplierPpm) multiplierScale)
    else (inputRate, outputRate)
  pure (ceilRatio (inputTokens * rates.1) tokensPerRateUnit +
    ceilRatio (outputTokens * rates.2) tokensPerRateUnit)

/-- The loop over the attempts: the input tokens that remain, and the total. -/
def packetCostLoop (policy : OpenAIPricingPolicy) :
    ℕ → ℤ → ℤ → Except PricingPolicyError (ℤ × ℤ)
  | 0, remainingInput, total => pure (remainingInput, total)
  | attempts + 1, remainingInput, total => do
      let requestInput := min maxReviewInputTokens remainingInput
      let cost ← reserveRequestCostMicrousd policy requestInput maxReviewOutputTokens
      packetCostLoop policy attempts (remainingInput - requestInput) (total + cost)

/-- `maximum_packet_cost_microusd` -/
def maximumPacketCostMicrousd (policy : OpenAIPricingPolicy) (reservedTokens attempts : ℤ) :
    Except PricingPolicyError ℤ := do
  ensure (attempts * maxReviewOutputTokens ≤ reservedTokens ∧
      ¬ attempts * (maxReviewInputTokens + maxReviewOutputTokens) < reservedTokens)
    (.pricingPolicyError "packet token reservation cannot fund the approved attempts")
  let remainingInput := reservedTokens - attempts * maxReviewOutputTokens
  let (remainingInput, total) ← packetCostLoop policy attempts.toNat remainingInput 0
  ensure (remainingInput = 0)
    (.pricingPolicyError "packet input reservation exceeds per-request limits")
  pure total

/-- `APPROVED_OPENAI_PRICING_POLICY` -/
def approvedOpenAIPricingPolicy : OpenAIPricingPolicy where
  inputMicrousdPerMillionTokens := 5000000
  cachedInputMicrousdPerMillionTokens := 500000
  cacheWriteInputMicrousdPerMillionTokens := 6250000
  outputMicrousdPerMillionTokens := 30000000
  longContextThresholdInputTokens := 272000
  longContextInputMultiplierPpm := 2000000
  longContextOutputMultiplierPpm := 1500000

/-! ## Policies and splits -/

/-- No rate is negative, and no review request has a long context. -/
structure ReviewPricingPolicy extends OpenAIPricingPolicy where
  input_nonneg : 0 ≤ inputMicrousdPerMillionTokens
  cachedInput_nonneg : 0 ≤ cachedInputMicrousdPerMillionTokens
  cacheWriteInput_nonneg : 0 ≤ cacheWriteInputMicrousdPerMillionTokens
  output_nonneg : 0 ≤ outputMicrousdPerMillionTokens
  threshold : maxReviewInputTokens ≤ longContextThresholdInputTokens

namespace ReviewPricingPolicy

variable (policy : ReviewPricingPolicy)

/-- The rate of an input token, whatever the cache does. -/
def inputRate : ℤ :=
  max (max policy.inputMicrousdPerMillionTokens policy.cachedInputMicrousdPerMillionTokens)
    policy.cacheWriteInputMicrousdPerMillionTokens

def outputRate : ℤ := policy.outputMicrousdPerMillionTokens

theorem inputRate_nonneg : 0 ≤ policy.inputRate :=
  le_max_of_le_left (le_max_of_le_left policy.input_nonneg)

end ReviewPricingPolicy

/-- The input tokens of at most `attempts` requests with full outputs, within a token limit. -/
structure PacketRequests (attempts reservedTokens : ℤ) where
  inputTokens : List ℤ
  bounds : ∀ tokens ∈ inputTokens, 0 ≤ tokens ∧ tokens ≤ maxReviewInputTokens
  count : (inputTokens.length : ℤ) ≤ attempts
  total : inputTokens.sum + inputTokens.length * maxReviewOutputTokens ≤ reservedTokens

/-- All requests are accepted, and their prices together are within a cap. -/
def PacketRequests.CostWithin {attempts reservedTokens : ℤ}
    (requests : PacketRequests attempts reservedTokens) (policy : ReviewPricingPolicy)
    (maximum : ℤ) : Prop :=
  ∃ costs, requests.inputTokens.mapM (reserveRequestCostMicrousd policy.toOpenAIPricingPolicy ·
    maxReviewOutputTokens) = .ok costs ∧ costs.sum ≤ maximum

/-- What rounding adds to the price of some tokens, in parts of `tokensPerRateUnit`. -/
def rateRoundUp (rate tokens : ℤ) : ℤ := roundUp tokensPerRateUnit (tokens * rate)

/-- The round-ups of the requests' inputs are paid for: by the input tokens that they leave, by
the round-ups of the full requests and of the last one in the cap, and by the outputs of the
requests they leave out. -/
def PacketRequests.RoundUpsCovered {attempts reservedTokens : ℤ}
    (requests : PacketRequests attempts reservedTokens) (policy : ReviewPricingPolicy) : Prop :=
  let input := reservedTokens - attempts * maxReviewOutputTokens
  (requests.inputTokens.map (rateRoundUp policy.inputRate)).sum ≤
    (input - requests.inputTokens.sum) * policy.inputRate +
      input / maxReviewInputTokens * rateRoundUp policy.inputRate maxReviewInputTokens +
      rateRoundUp policy.inputRate (input % maxReviewInputTokens) +
      (attempts - requests.inputTokens.length) *
        (maxReviewOutputTokens * policy.outputRate +
          rateRoundUp policy.outputRate maxReviewOutputTokens)

/-! ## The price of a request -/

section

variable {policy : ReviewPricingPolicy}

/-- The price of input or output tokens. -/
def price (rate tokens : ℤ) : ℤ := ceilRatio (tokens * rate) tokensPerRateUnit

theorem unit_pos : 0 < tokensPerRateUnit := by decide

theorem price_zero (rate : ℤ) : price rate 0 = 0 := by
  rw [price, zero_mul, ceilRatio_zero unit_pos]

theorem unit_mul_price (rate tokens : ℤ) :
    tokensPerRateUnit * price rate tokens = tokens * rate + rateRoundUp rate tokens :=
  mul_ceilRatio unit_pos _

variable (policy) in
/-- A request of a review has the plain rates. -/
theorem reserveRequestCost_eq {inputTokens : ℤ}
    (h : 0 ≤ inputTokens ∧ inputTokens ≤ maxReviewInputTokens) :
    reserveRequestCostMicrousd policy.toOpenAIPricingPolicy inputTokens maxReviewOutputTokens =
      .ok (price policy.inputRate inputTokens + price policy.outputRate maxReviewOutputTokens) := by
  have hshort : ¬ policy.longContextThresholdInputTokens < inputTokens :=
    not_lt.mpr (le_trans h.2 policy.threshold)
  have houtput : 0 ≤ maxReviewOutputTokens ∧ maxReviewOutputTokens ≤ maxReviewOutputTokens := by
    decide
  rw [reserveRequestCostMicrousd, ensure_of _ h, ok_bind, ensure_of _ houtput, ok_bind]
  simp only [if_neg hshort]
  rfl

/-- The requests' prices together. -/
theorem unit_mul_sum_prices (rate : ℤ) (tokens : List ℤ) :
    tokensPerRateUnit * (tokens.map (price rate)).sum =
      tokens.sum * rate + (tokens.map (rateRoundUp rate)).sum := by
  have h := mul_sum_ceilRatio unit_pos (tokens.map (· * rate))
  rw [List.map_map, List.map_map, List.sum_map_mul_right, List.map_id'] at h
  exact h

/-! ## The cap -/

/-- The price of the inputs in the cap: full requests and one last request. -/
def greedyInputPrice (policy : ReviewPricingPolicy) (input : ℤ) : ℤ :=
  input / maxReviewInputTokens * price policy.inputRate maxReviewInputTokens +
    price policy.inputRate (input % maxReviewInputTokens)

theorem greedyInputPrice_full (input : ℤ) :
    greedyInputPrice policy input = price policy.inputRate maxReviewInputTokens +
      greedyInputPrice policy (input - maxReviewInputTokens) := by
  have hquotient : input / maxReviewInputTokens =
      (input - maxReviewInputTokens) / maxReviewInputTokens + 1 := by
    simp only [maxReviewInputTokens]
    omega
  have hrest : input % maxReviewInputTokens =
      (input - maxReviewInputTokens) % maxReviewInputTokens := by
    simp only [maxReviewInputTokens]
    omega
  rw [greedyInputPrice, hquotient, hrest, greedyInputPrice]
  ring

theorem greedyInputPrice_last {input : ℤ} (hnonneg : 0 ≤ input)
    (h : input < maxReviewInputTokens) :
    greedyInputPrice policy input = price policy.inputRate input := by
  rw [greedyInputPrice, Int.ediv_eq_zero_of_lt hnonneg h, Int.emod_eq_of_lt hnonneg h, zero_mul,
    zero_add]

/-- What the loop returns for an input that its attempts can take. -/
theorem packetCostLoop_eq (attempts : ℕ) : ∀ {input : ℤ} (total : ℤ), 0 ≤ input →
    input ≤ attempts * maxReviewInputTokens →
    packetCostLoop policy.toOpenAIPricingPolicy attempts input total =
      .ok (0, total + greedyInputPrice policy input +
        attempts * price policy.outputRate maxReviewOutputTokens) := by
  induction attempts with
  | zero =>
      intro input total hnonneg hfits
      have hinput : input = 0 := by
        rw [Nat.cast_zero, zero_mul] at hfits
        omega
      have hfree : greedyInputPrice policy 0 = 0 := by
        rw [greedyInputPrice_last le_rfl (by decide), price_zero]
      rw [hinput, hfree, Nat.cast_zero, zero_mul, add_zero, add_zero]
      rfl
  | succ attempts ih =>
      intro input total hnonneg hfits
      rw [Nat.cast_succ, add_mul, one_mul] at hfits
      rw [packetCostLoop]
      by_cases hfull : maxReviewInputTokens ≤ input
      · have hwhole : 0 ≤ maxReviewInputTokens ∧ maxReviewInputTokens ≤ maxReviewInputTokens := by
          decide
        have hcost := reserveRequestCost_eq policy hwhole
        rw [min_eq_left hfull, hcost, ok_bind, ih _ (by omega) (by omega),
          greedyInputPrice_full input]
        congr 2
        push_cast
        ring
      · push Not at hfull
        have hcost := reserveRequestCost_eq policy ⟨hnonneg, hfull.le⟩
        have hfree : greedyInputPrice policy 0 = 0 := by
          rw [greedyInputPrice_last le_rfl (by decide), price_zero]
        have hroom : (0 : ℤ) ≤ attempts * maxReviewInputTokens :=
          mul_nonneg (Int.natCast_nonneg attempts) (by decide)
        rw [min_eq_right hfull.le, hcost, ok_bind, sub_self, ih _ le_rfl hroom, hfree,
          greedyInputPrice_last hnonneg hfull]
        congr 2
        push_cast
        ring

/-- The cap of an accepted reservation. -/
theorem maximumPacketCost_ok {reservedTokens attempts maximum : ℤ}
    (h : maximumPacketCostMicrousd policy.toOpenAIPricingPolicy reservedTokens attempts =
      .ok maximum) :
    maximum = greedyInputPrice policy (reservedTokens - attempts * maxReviewOutputTokens) +
      attempts * price policy.outputRate maxReviewOutputTokens := by
  simp only [maximumPacketCostMicrousd, bind_eq_ok_iff, ensure_eq_ok_iff, pure_eq_ok_iff,
    exists_const] at h
  obtain ⟨⟨hfund, hlimit⟩, ⟨remaining, total⟩, hloop, -, rfl⟩ := h
  have hattempts : ((attempts.toNat : ℕ) : ℤ) = attempts := by
    rw [Int.toNat_of_nonneg]
    simp only [maxReviewInputTokens, maxReviewOutputTokens] at hfund hlimit
    omega
  have hfits : reservedTokens - attempts * maxReviewOutputTokens ≤
      attempts.toNat * maxReviewInputTokens := by
    rw [hattempts]
    linarith
  rw [packetCostLoop_eq _ 0 (by linarith) hfits, hattempts, zero_add] at hloop
  cases hloop
  rfl

variable (policy) in
theorem unit_mul_greedyInputPrice (input : ℤ) :
    tokensPerRateUnit * greedyInputPrice policy input =
      input * policy.inputRate +
        input / maxReviewInputTokens * rateRoundUp policy.inputRate maxReviewInputTokens +
        rateRoundUp policy.inputRate (input % maxReviewInputTokens) := by
  have hfull := unit_mul_price policy.inputRate maxReviewInputTokens
  have hlast := unit_mul_price policy.inputRate (input % maxReviewInputTokens)
  have hsplit := Int.mul_ediv_add_emod input maxReviewInputTokens
  calc tokensPerRateUnit * greedyInputPrice policy input
      = input / maxReviewInputTokens *
            (tokensPerRateUnit * price policy.inputRate maxReviewInputTokens) +
          tokensPerRateUnit * price policy.inputRate (input % maxReviewInputTokens) := by
        rw [greedyInputPrice]
        ring
    _ = (maxReviewInputTokens * (input / maxReviewInputTokens) + input % maxReviewInputTokens) *
            policy.inputRate +
          input / maxReviewInputTokens * rateRoundUp policy.inputRate maxReviewInputTokens +
          rateRoundUp policy.inputRate (input % maxReviewInputTokens) := by
        rw [hfull, hlast]
        ring
    _ = _ := by rw [hsplit]

end

/-! ## Sums of reservations -/

/-- The prices of a list of requests are within the greedy cap exactly when their round-ups are
covered. -/
theorem sum_prices_le_iff {policy : ReviewPricingPolicy} {attempts reservedTokens : ℤ}
    (requests : PacketRequests attempts reservedTokens) :
    (requests.inputTokens.map fun tokens =>
        price policy.inputRate tokens + price policy.outputRate maxReviewOutputTokens).sum ≤
      greedyInputPrice policy (reservedTokens - attempts * maxReviewOutputTokens) +
        attempts * price policy.outputRate maxReviewOutputTokens ↔
      requests.RoundUpsCovered policy := by
  have houtput := unit_mul_price policy.outputRate maxReviewOutputTokens
  have hinputs := unit_mul_sum_prices policy.inputRate requests.inputTokens
  have hgreedy := unit_mul_greedyInputPrice policy
    (reservedTokens - attempts * maxReviewOutputTokens)
  rw [List.sum_map_add, List.map_const', List.sum_replicate, nsmul_eq_mul,
    ← mul_le_mul_iff_right₀ unit_pos, mul_add, mul_add, hinputs, hgreedy,
    PacketRequests.RoundUpsCovered, ← houtput]
  constructor
  · intro h
    linarith
  · intro h
    linarith

theorem reserveRequestCosts_eq {policy : ReviewPricingPolicy} {attempts reservedTokens : ℤ}
    (requests : PacketRequests attempts reservedTokens) :
    requests.inputTokens.mapM (reserveRequestCostMicrousd policy.toOpenAIPricingPolicy ·
        maxReviewOutputTokens) =
      .ok (requests.inputTokens.map fun tokens =>
        price policy.inputRate tokens + price policy.outputRate maxReviewOutputTokens) := by
  rw [mapM_eq_ok_iff, List.forall₂_map_right_iff, List.forall₂_same]
  intro tokens htokens
  exact reserveRequestCost_eq policy (requests.bounds tokens htokens)

/-- The cap covers a list of requests that fits the token limit exactly when it covers their
round-ups. -/
theorem maximumPacketCost_covers_iff (policy : ReviewPricingPolicy) (attempts reservedTokens : ℤ)
    (requests : PacketRequests attempts reservedTokens) :
    Returned (fun maximum => requests.CostWithin policy maximum ↔ requests.RoundUpsCovered policy)
      (maximumPacketCostMicrousd policy.toOpenAIPricingPolicy reservedTokens attempts) := by
  rw [returned_iff]
  intro maximum hmaximum
  rw [PacketRequests.CostWithin, reserveRequestCosts_eq, ← sum_prices_le_iff requests,
    maximumPacketCost_ok hmaximum]
  constructor
  · rintro ⟨costs, hcosts, hsum⟩
    rw [Except.ok.inj hcosts]
    exact hsum
  · intro hsum
    exact ⟨_, rfl, hsum⟩

/-- Rates in whole micro-dollars a token leave nothing to round, and then the cap covers every
list of requests. -/
theorem roundUpsCovered_of_wholeRate {policy : ReviewPricingPolicy}
    (hwhole : tokensPerRateUnit ∣ policy.inputRate) (hrates : policy.inputRate ≤ policy.outputRate)
    {attempts reservedTokens : ℤ} (requests : PacketRequests attempts reservedTokens) :
    requests.RoundUpsCovered policy := by
  have hexact : ∀ tokens, rateRoundUp policy.inputRate tokens = 0 := fun tokens =>
    roundUp_eq_zero_iff.mpr (dvd_mul_of_dvd_right hwhole tokens)
  have hnone : (requests.inputTokens.map (rateRoundUp policy.inputRate)).sum = 0 := by
    rw [funext hexact, List.map_const', List.sum_replicate, nsmul_zero]
  have houtputs : maxReviewOutputTokens * policy.inputRate ≤
      maxReviewOutputTokens * policy.outputRate + rateRoundUp policy.outputRate
        maxReviewOutputTokens := by
    have hrate := mul_le_mul_of_nonneg_left hrates (a := maxReviewOutputTokens) (by decide)
    have hround := roundUp_nonneg unit_pos (maxReviewOutputTokens * policy.outputRate)
    exact le_add_of_le_of_nonneg hrate hround
  -- a request that is left out frees the tokens of its output
  have hleft : -((attempts - requests.inputTokens.length) * maxReviewOutputTokens) ≤
      reservedTokens - attempts * maxReviewOutputTokens - requests.inputTokens.sum := by
    linarith [requests.total]
  have hinputs := mul_le_mul_of_nonneg_right hleft policy.inputRate_nonneg
  have hcount := mul_le_mul_of_nonneg_left houtputs (sub_nonneg.mpr requests.count)
  rw [PacketRequests.RoundUpsCovered, hnone, hexact, hexact, mul_zero, add_zero, add_zero]
  linarith

/-! ## Four requests of the approved policy -/

/-- The approved numbers. -/
def approvedReviewPricingPolicy : ReviewPricingPolicy where
  toOpenAIPricingPolicy := approvedOpenAIPricingPolicy
  input_nonneg := by decide
  cachedInput_nonneg := by decide
  cacheWriteInput_nonneg := by decide
  output_nonneg := by decide
  threshold := by decide

/-- Four requests of about equal size, with 544000 tokens together. -/
def evenRequests : PacketRequests 4 544000 where
  inputTokens := [124001, 124001, 124001, 123997]
  bounds := by decide
  count := by decide
  total := by decide

/-- Their prices come to 4540003, the cap is 4540000. -/
theorem evenRequests_exceed_cap :
    ¬ Returned (fun maximum => evenRequests.CostWithin approvedReviewPricingPolicy maximum)
      (maximumPacketCostMicrousd approvedOpenAIPricingPolicy 544000 4) := by
  have hmaximum :
      maximumPacketCostMicrousd approvedOpenAIPricingPolicy 544000 4 = .ok 4540000 := by
    decide
  rw [hmaximum, returned_ok]
  rintro ⟨costs, hcosts, hsum⟩
  have hprices : evenRequests.inputTokens.mapM (reserveRequestCostMicrousd
      approvedOpenAIPricingPolicy · maxReviewOutputTokens) =
      .ok [1135007, 1135007, 1135007, 1134982] := by
    decide
  rw [Except.ok.inj (hcosts.symm.trans hprices)] at hsum
  exact absurd hsum (by decide)

end AmazonSimilarSearch.BrokerLedger
