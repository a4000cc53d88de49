import AmazonSimilarSearch.Foundation.JsonRoundTrip

/-!
# Every value that was read keeps its keys in order

Objects enter a program only through the reader, which builds each of them by
ordered insertion. So every object inside a value that was read, at any depth,
has its keys in order and none twice.
-/
namespace Foundation
namespace Json

mutual
/-- The keys of every object are in order, at any depth. -/
def IsOrdered : Json → Prop
  | .arr xs => OrderedItems xs
  | .obj fs => Fields.SortedKeys fs ∧ OrderedFields fs
  | _ => True
def OrderedItems : List Json → Prop
  | [] => True
  | x :: xs => IsOrdered x ∧ OrderedItems xs
def OrderedFields : Fields → Prop
  | [] => True
  | (_, v) :: fs => IsOrdered v ∧ OrderedFields fs
end

attribute [grind =] IsOrdered OrderedItems OrderedFields

@[simp] theorem isOrdered_null : IsOrdered .null := by simp [IsOrdered]
@[simp] theorem isOrdered_bool (b : Bool) : IsOrdered (.bool b) := by simp [IsOrdered]
@[simp] theorem isOrdered_int (i : ℤ) : IsOrdered (.int i) := by simp [IsOrdered]
@[simp] theorem isOrdered_float (f : PyFloat) : IsOrdered (.float f) := by simp [IsOrdered]
@[simp] theorem isOrdered_str (s : String) : IsOrdered (.str s) := by simp [IsOrdered]

theorem isOrdered_arr {xs : List Json} : IsOrdered (.arr xs) ↔ ∀ x ∈ xs, IsOrdered x := by
  have hitems : OrderedItems xs ↔ ∀ x ∈ xs, IsOrdered x := by
    induction xs with
    | nil => simp [OrderedItems]
    | cons x xs ih => simp [OrderedItems, ih]
  simp [IsOrdered, hitems]

theorem isOrdered_obj {fs : Fields} :
    IsOrdered (.obj fs) ↔ Fields.SortedKeys fs ∧ ∀ f ∈ fs, IsOrdered f.2 := by
  have hfields : OrderedFields fs ↔ ∀ f ∈ fs, IsOrdered f.2 := by
    induction fs with
    | nil => simp [OrderedFields]
    | cons f fs ih =>
        obtain ⟨k, v⟩ := f
        simp [OrderedFields, ih]
  simp [IsOrdered, hfields]

mutual
theorem IsPlain.isOrdered : ∀ {v : Json}, IsPlain v → IsOrdered v
  | .null, _ | .bool _, _ | .int _, _ | .float _, _ | .str _, _ => by simp
  | .arr xs, h => by
      rw [IsOrdered]
      exact PlainItems.ordered (isPlain_arr.mp h)
  | .obj fs, h => by
      rw [IsOrdered]
      exact ⟨(isPlain_obj.mp h).1, PlainFields.ordered (isPlain_obj.mp h).2⟩
theorem PlainItems.ordered : ∀ {xs : List Json}, PlainItems xs → OrderedItems xs
  | [], _ => by simp [OrderedItems]
  | _ :: _, h => by
      rw [OrderedItems]
      exact ⟨(plainItems_cons.mp h).1.isOrdered, PlainItems.ordered (plainItems_cons.mp h).2⟩
theorem PlainFields.ordered : ∀ {fs : Fields}, PlainFields fs → OrderedFields fs
  | [], _ => by simp [OrderedFields]
  | (_, _) :: _, h => by
      rw [OrderedFields]
      exact ⟨(plainFields_cons.mp h).1.isOrdered, PlainFields.ordered (plainFields_cons.mp h).2⟩
end

mutual
/-- There is nothing to sort in an ordered value. -/
theorem IsOrdered.sortKeys_eq : ∀ {v : Json}, IsOrdered v → sortKeys v = v
  | .null, _ | .bool _, _ | .int _, _ | .float _, _ | .str _, _ => by simp
  | .arr xs, h => by
      rw [IsOrdered] at h
      rw [sortKeys, OrderedItems.sortItems_eq h]
  | .obj fs, h => by
      rw [IsOrdered] at h
      rw [sortKeys, OrderedFields.sortFields_eq h.2, Fields.ofPairs_sorted h.1]
theorem OrderedItems.sortItems_eq : ∀ {xs : List Json}, OrderedItems xs → sortItems xs = xs
  | [], _ => rfl
  | _ :: _, h => by
      rw [OrderedItems] at h
      rw [sortItems, h.1.sortKeys_eq, OrderedItems.sortItems_eq h.2]
theorem OrderedFields.sortFields_eq : ∀ {fs : Fields}, OrderedFields fs → sortFields fs = fs
  | [], _ => rfl
  | (_, _) :: _, h => by
      rw [OrderedFields] at h
      rw [sortFields, h.1.sortKeys_eq, OrderedFields.sortFields_eq h.2]
end

theorem mem_insert {fs : Fields} {k : String} {v : Json} {f : String × Json}
    (h : f ∈ Fields.insert k v fs) : f = (k, v) ∨ f ∈ fs := by
  induction fs with
  | nil => simpa [Fields.insert] using h
  | cons g fs ih =>
      obtain ⟨l, w⟩ := g
      rw [Fields.insert] at h
      split_ifs at h with h₁ h₂
      · simpa using h
      · rcases List.mem_cons.mp h with h | h
        · exact Or.inl h
        · exact Or.inr (List.mem_cons_of_mem _ h)
      · rcases List.mem_cons.mp h with h | h
        · exact Or.inr (h ▸ List.mem_cons_self)
        · exact (ih h).imp_right (List.mem_cons_of_mem _)

theorem mem_ofPairs {ps : List (String × Json)} {f : String × Json}
    (h : f ∈ Fields.ofPairs ps) : f ∈ ps := by
  have key : ∀ fs : Fields, f ∈ ps.foldl (fun gs p => Fields.insert p.1 p.2 gs) fs →
      f ∈ fs ∨ f ∈ ps := by
    clear h
    induction ps with
    | nil => exact fun fs h => Or.inl h
    | cons p ps ih =>
        intro fs h
        rcases ih _ h with h | h
        · rcases mem_insert h with rfl | h
          · exact Or.inr List.mem_cons_self
          · exact Or.inl h
        · exact Or.inr (List.mem_cons_of_mem _ h)
  exact (key [] h).resolve_left (List.not_mem_nil)

theorem isOrdered_of_pairsValue {h : Hooks} {ps : List (String × Json)} {v : Json}
    (hps : ∀ p ∈ ps, IsOrdered p.2) (hv : pairsValue h ps = .ok v) : IsOrdered v := by
  unfold pairsValue at hv
  split_ifs at hv
  cases hv
  exact isOrdered_obj.mpr ⟨Fields.sortedKeys_ofPairs ps, fun f hf => hps f (mem_ofPairs hf)⟩

theorem isOrdered_of_parseLiteral {tail : List Char} {w : Except JsonError Json} {cs : List Char}
    {p : Json × List Char} (hw : ∀ v, w = .ok v → IsOrdered v)
    (h : parseLiteral tail w cs = .ok p) : IsOrdered p.1 := by
  unfold parseLiteral at h
  split_ifs at h
  cases w with
  | error e => cases h
  | ok v =>
      cases h
      exact hw v rfl

theorem isOrdered_of_parseNumber {negative : Bool} {cs : List Char} {p : Json × List Char}
    (h : parseNumber negative cs = .ok p) : IsOrdered p.1 := by
  unfold parseNumber at h
  simp only at h
  split_ifs at h <;> cases h <;> simp

theorem isOrdered_constantValue {h : Hooks} {f : PyFloat} {v : Json}
    (hv : constantValue h f = .ok v) : IsOrdered v := by
  unfold constantValue at hv
  split_ifs at hv
  cases hv
  simp

/-- What each of the three readers returns is ordered, whatever the fuel. -/
theorem ordered_readers (h : Hooks) (fuel : ℕ) :
    (∀ cs p, parseValue h fuel cs = .ok p → IsOrdered p.1) ∧
    (∀ cs p, parseItems h fuel cs = .ok p → ∀ x ∈ p.1, IsOrdered x) ∧
    (∀ pairs cs p, (∀ q ∈ pairs, IsOrdered q.2) → parseMembers h fuel pairs cs = .ok p →
      IsOrdered p.1) := by
  induction fuel with
  | zero =>
      refine ⟨?_, ?_, ?_⟩
      · intro cs p hp
        simp [parseValue] at hp
      · intro cs p hp
        simp [parseItems] at hp
      · intro pairs cs p _ hp
        simp [parseMembers] at hp
  | succ fuel ih =>
      obtain ⟨ihValue, ihItems, ihMembers⟩ := ih
      refine ⟨?_, ?_, ?_⟩
      · intro cs p hp
        cases cs with
        | nil => simp [parseValue] at hp
        | cons c cs =>
            rw [parseValue] at hp
            split_ifs at hp
            · cases hs : parseString cs with
              | error e => simp [hs, Except.map] at hp
              | ok q =>
                  simp only [hs, Except.map, Except.ok.injEq] at hp
                  subst hp
                  simp
            · cases hv : pairsValue h [] with
              | error e => simp [hv, Except.map] at hp
              | ok v =>
                  simp only [hv, Except.map, Except.ok.injEq] at hp
                  subst hp
                  exact isOrdered_of_pairsValue (by simp) hv
            · exact ihMembers [] _ p (by simp) hp
            · cases hp
              exact isOrdered_arr.mpr (by simp)
            · cases hi : parseItems h fuel (skipSpace cs) with
              | error e => simp [hi, Except.map] at hp
              | ok q =>
                  simp only [hi, Except.map, Except.ok.injEq] at hp
                  subst hp
                  exact isOrdered_arr.mpr (ihItems _ q hi)
            · exact isOrdered_of_parseLiteral (by rintro v ⟨⟩; simp) hp
            · exact isOrdered_of_parseLiteral (by rintro v ⟨⟩; simp) hp
            · exact isOrdered_of_parseLiteral (by rintro v ⟨⟩; simp) hp
            · exact isOrdered_of_parseLiteral (fun v hv => isOrdered_constantValue hv) hp
            · exact isOrdered_of_parseLiteral (fun v hv => isOrdered_constantValue hv) hp
            · exact isOrdered_of_parseLiteral (fun v hv => isOrdered_constantValue hv) hp
            · exact isOrdered_of_parseNumber hp
            · exact isOrdered_of_parseNumber hp
      · intro cs p hp
        rw [parseItems] at hp
        cases hv : parseValue h fuel cs with
        | error e => simp [hv, bind, Except.bind] at hp
        | ok q =>
            have hq := ihValue cs q hv
            simp only [hv, bind, Except.bind] at hp
            split at hp
            · cases hp
              simpa using hq
            · next rest _ =>
              cases hi : parseItems h fuel (skipSpace rest) with
              | error e => simp [hi] at hp
              | ok r =>
                  have hr := ihItems _ r hi
                  simp only [hi, pure, Except.pure, Except.ok.injEq] at hp
                  subst hp
                  simpa using ⟨hq, hr⟩
            · cases hp
      · intro pairs cs p hpairs hp
        rw [parseMembers.eq_def] at hp
        simp only at hp
        split at hp
        · next cs =>
          cases hs : parseString cs with
          | error e => simp [hs, bind, Except.bind] at hp
          | ok q =>
              simp only [hs, bind, Except.bind] at hp
              split at hp
              · next rest _ =>
                cases hv : parseValue h fuel (skipSpace rest) with
                | error e => simp [hv] at hp
                | ok r =>
                    have hr := ihValue _ r hv
                    have hnew : ∀ q' ∈ (String.ofList q.1, r.1) :: pairs, IsOrdered q'.2 := by
                      simpa using ⟨hr, fun a b hb => hpairs (a, b) hb⟩
                    simp only [hv] at hp
                    split at hp
                    · cases hw : pairsValue h ((String.ofList q.1, r.1) :: pairs).reverse with
                      | error e => simp only [hw, reduceCtorEq] at hp
                      | ok w =>
                          simp only [hw, pure, Except.pure, Except.ok.injEq] at hp
                          subst hp
                          exact isOrdered_of_pairsValue
                            (fun p' hp' => hnew p' (List.mem_reverse.mp hp')) hw
                    · exact ihMembers _ _ p hnew hp
                    · cases hp
              · cases hp
        · cases hp

/-- Whatever `json.loads` returns is ordered. -/
theorem isOrdered_of_loads {h : Hooks} {text : String} {v : Json}
    (hv : loads h text = .ok v) : IsOrdered v := by
  unfold loads at hv
  simp only at hv
  split_ifs at hv
  cases hp : parseValue h (2 * text.toList.length + 1) (skipSpace text.toList) with
  | error e => simp [hp, bind, Except.bind] at hv
  | ok p =>
      simp only [hp, bind, Except.bind] at hv
      split_ifs at hv
      cases hv
      exact (ordered_readers h _).1 _ p hp

end Json
end Foundation
