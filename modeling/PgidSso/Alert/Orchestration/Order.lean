import PgidSso.Alert.Orchestration.Collect
import PgidSso.Alert.Orchestration.Determined

/-! The order in which the evaluator plans observations. -/

open comparator

namespace pgid.alert.orchestration

section points

/-- The code units of a code point. -/
def unitsOf (point : Nat) : Text :=
  if point < 0x10000 then [UInt16.ofNat point]
  else [UInt16.ofNat (0xD800 + (point - 0x10000) / 0x400), UInt16.ofNat (0xDC00 + (point - 0x10000) % 0x400)]

theorem unitsOf_unit (code : UInt16) : unitsOf code.toNat = [code] := by
  rw [unitsOf, if_pos code.toNat_lt, UInt16.ofNat_toNat]

theorem unitsOf_pair {high low : UInt16} (hhigh : Text.IsHigh high) (hlow : Text.IsLow low) :
    unitsOf (0x10000 + (high.toNat - 0xD800) * 0x400 + (low.toNat - 0xDC00)) = [high, low] := by
  rw [Text.IsHigh, UInt16.le_iff_toNat_le, UInt16.le_iff_toNat_le] at hhigh
  rw [Text.IsLow, UInt16.le_iff_toNat_le, UInt16.le_iff_toNat_le] at hlow
  have hbounds : (0xD800 : UInt16).toNat = 0xD800 ∧ (0xDBFF : UInt16).toNat = 0xDBFF ∧
      (0xDC00 : UInt16).toNat = 0xDC00 ∧ (0xDFFF : UInt16).toNat = 0xDFFF := by decide
  obtain ⟨hfirst, hsecond, hthird, hfourth⟩ := hbounds
  rw [hfirst, hsecond] at hhigh
  rw [hthird, hfourth] at hlow
  have hlead : 0xD800 + (0x10000 + (high.toNat - 0xD800) * 0x400 + (low.toNat - 0xDC00) - 0x10000) / 0x400 =
      high.toNat := by omega
  have htrail : 0xDC00 + (0x10000 + (high.toNat - 0xD800) * 0x400 + (low.toNat - 0xDC00) - 0x10000) % 0x400 =
      low.toNat := by omega
  rw [unitsOf, if_neg (by omega), hlead, htrail, UInt16.ofNat_toNat, UInt16.ofNat_toNat]

/-- A text is recovered from its code points. -/
theorem flatMap_unitsOf_codePoints (text : Text) : (codePoints text).flatMap unitsOf = text := by
  induction text using codePoints.induct with
  | case1 high low rest hpair ih =>
    rw [codePoints, if_pos hpair, List.flatMap_cons, unitsOf_pair hpair.1 hpair.2, ih]
    rfl
  | case2 high low rest hpair ih =>
    rw [codePoints, if_neg hpair, List.flatMap_cons, unitsOf_unit, ih]
    rfl
  | case3 code =>
    rw [codePoints, List.flatMap_cons, unitsOf_unit]
    rfl
  | case4 => rfl

theorem codePoints_inj {left right : Text} : codePoints left = codePoints right ↔ left = right := by
  constructor
  · intro hsame
    rw [← flatMap_unitsOf_codePoints left, ← flatMap_unitsOf_codePoints right, hsame]
  · rintro rfl
    rfl

/-- The comparison is the lexicographic order of the points. -/
theorem compares_points : Compares comparePoints fun points : List Nat => points := by
  refine ⟨?_, ?_⟩
  · intro left right
    induction left generalizing right with
    | nil =>
      cases right with
      | nil => exact iff_of_false (Int.lt_irrefl 0) (List.lt_irrefl [])
      | cons point right => exact iff_of_true (show (-1 : Int) < 0 by decide) (List.nil_lt_cons point right)
    | cons point left ih =>
      cases right with
      | nil => exact iff_of_false (show ¬ (1 : Int) < 0 by decide) (List.not_lt_nil _)
      | cons other right =>
        rw [comparePoints, List.cons_lt_cons_iff, ← ih right]
        by_cases hsame : point = other
        · subst hsame
          simp only [sub_self, ne_eq, not_true_eq_false, if_false, lt_self_iff_false, true_and, false_or]
        · rw [if_pos (by omega)]
          simp only [hsame, false_and, or_false]
          omega
  · intro left right
    induction left generalizing right with
    | nil => cases right <;> rfl
    | cons point left ih =>
      cases right with
      | nil => rfl
      | cons other right =>
        rw [comparePoints, comparePoints, ih right]
        by_cases hsame : point = other
        · subst hsame
          simp only [sub_self, ne_eq, not_true_eq_false, if_false]
        · rw [if_pos (by omega), if_pos (by omega)]
          omega

theorem compares_codePoints : Compares compareCodePoints codePoints :=
  compares_points.comp codePoints

end points

section observations

/-- The place of an observation in the order: its rule, its kind of dimension, and the text of
its dimension. -/
def observationKey (observation : AlertRuleObservation) : Nat ×ₗ Nat ×ₗ List Nat :=
  toLex (RULE_ORDER observation.ruleId,
    toLex (DIMENSION_ORDER observation.dimension.kind, codePoints (dimensionValue observation.dimension)))

theorem compares_observations : Compares compareObservations observationKey :=
  (compares_difference fun observation : AlertRuleObservation => RULE_ORDER observation.ruleId).thenBy
    ((compares_difference fun observation : AlertRuleObservation => DIMENSION_ORDER observation.dimension.kind).thenBy
      (compares_codePoints.comp fun observation : AlertRuleObservation => dimensionValue observation.dimension))

theorem RULE_ORDER_inj {left right : AlertRuleId} : RULE_ORDER left = RULE_ORDER right ↔ left = right := by
  rw [RULE_ORDER, RULE_ORDER, List.idxOf_inj (AlertRuleId.mem_ids left)]

theorem DIMENSION_ORDER_inj {left right : AlertDimensionKind} :
    DIMENSION_ORDER left = DIMENSION_ORDER right ↔ left = right := by
  constructor
  · intro hsame
    rcases left with _ | (_ | _ | _) | _ <;> rcases right with _ | (_ | _ | _) | _ <;> first | rfl | cases hsame
  · rintro rfl
    rfl

/-- Accepted dimensions of the same kind are told apart by their texts. -/
theorem dimensionValue_inj {left right : AlertDimension} (hleft : ReferenceAccepted left)
    (hright : ReferenceAccepted right) (hkind : left.kind = right.kind)
    (hvalue : dimensionValue left = dimensionValue right) : left = right := by
  cases left with
  | global =>
    cases right with
    | global => rfl
    | hashed kind reference => cases hkind
    | queue queue => cases hkind
  | hashed kind reference =>
    cases right with
    | global => cases hkind
    | hashed otherKind otherReference =>
      obtain rfl : kind = otherKind := AlertDimensionKind.hashed.inj hkind
      obtain ⟨hversion, hreference⟩ := hleft kind reference rfl
      obtain ⟨hotherVersion, hotherReference⟩ := hright kind otherReference rfl
      rw [dimensionValue, dimensionValue, hversion, hotherVersion] at hvalue
      have hvalues := reference_eq_of_text hreference hotherReference (List.append_cancel_left hvalue)
      rw [AlertDimension.hashed.injEq, HashedAlertReference.mk.injEq]
      exact ⟨rfl, hversion.trans hotherVersion.symm, hvalues⟩
    | queue queue => cases hkind
  | queue queue =>
    cases right with
    | global => cases hkind
    | hashed kind reference => cases hkind
    | queue otherQueue =>
      rw [dimensionValue, dimensionValue] at hvalue
      have hquoted : quoted queue.text ++ [] = quoted otherQueue.text ++ [] := by rw [quoted, quoted, hvalue]
      exact congrArg AlertDimension.queue
        (determined_queueName (fun _ hcode => by cases hcode) (fun _ hcode => by cases hcode) hquoted).1

variable {left right : AlertRuleObservation}

theorem observationKey_eq_iff (hleft : Admitted left) (hright : Admitted right) :
    observationKey left = observationKey right ↔ left.dimension = right.dimension ∧ left.ruleId = right.ruleId := by
  rw [observationKey, observationKey, EmbeddingLike.apply_eq_iff_eq, Prod.mk.injEq, EmbeddingLike.apply_eq_iff_eq,
    Prod.mk.injEq, RULE_ORDER_inj, DIMENSION_ORDER_inj, codePoints_inj]
  constructor
  · rintro ⟨hrule, hkind, hvalue⟩
    exact ⟨dimensionValue_inj hleft.dimension.2 hright.dimension.2 hkind hvalue, hrule⟩
  · rintro ⟨hdimension, hrule⟩
    rw [hdimension]
    exact ⟨hrule, rfl, rfl⟩

/-- Accepted observations compare as equal exactly when their identities are. -/
theorem compareObservations_eq_zero_iff (hleft : Admitted left) (hright : Admitted right) :
    compareObservations left right = 0 ↔ semanticIdentity left = semanticIdentity right := by
  rw [compares_observations.zero, observationKey_eq_iff hleft hright, semanticIdentity_eq_iff hleft hright]

end observations

end pgid.alert.orchestration
