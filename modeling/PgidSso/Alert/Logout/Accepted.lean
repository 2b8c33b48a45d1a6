import PgidSso.Alert.Logout.Projected

open checked

namespace pgid.alert.logout

section stored

variable {stored : List StoredTimestamp} {starts : Windowed Timestamp} {asOf : Timestamp}

theorem StoredTimestamp.instant_fourDigit {value : StoredTimestamp} {instant : Timestamp}
    (hinstant : value.instant = some instant) : instant.FourDigitYear := by
  cases value with
  | canonical own hfour =>
    cases hinstant
    exact hfour
  | malformed => cases hinstant

/-- The windows that end at an instant. -/
structure Windows (starts : Windowed Timestamp) (asOf : Timestamp) : Prop where
  first : starts.w5m.ms = asOf.ms - 300000
  second : starts.w15m.ms = asOf.ms - 900000
  third : starts.w60m.ms = asOf.ms - 3600000

/-- The timestamps stand in the longest window. -/
def Within (starts : Windowed Timestamp) (asOf : Timestamp) (stored : List StoredTimestamp) : Prop :=
  ∀ value ∈ stored, StoredFrom value starts.w60m ∧ StoredBefore value asOf

theorem mem_instants {instant : Timestamp} :
    instant ∈ instants stored ↔ ∃ value ∈ stored, value.instant = some instant :=
  List.mem_filterMap

theorem newest_eq_none_iff : newest stored = none ↔ instants stored = [] :=
  List.argmax_eq_none

theorem newest_eq_some {last : Timestamp} (hnewest : newest stored = some last) :
    last ∈ instants stored ∧ ∀ other ∈ instants stored, other.ms ≤ last.ms :=
  ⟨List.argmax_mem hnewest, fun _ hother => List.le_of_mem_argmax hother hnewest⟩

/-- A column of canonical timestamps that is not empty has an oldest one and a newest one. -/
theorem exists_oldest_newest (hne : stored ≠ []) (hbefore : ∀ value ∈ stored, StoredBefore value asOf) :
    ∃ created last, oldest stored = some created ∧ newest stored = some last ∧ created.ms ≤ last.ms := by
  obtain ⟨value, hvalue⟩ := List.exists_mem_of_ne_nil stored hne
  obtain ⟨instant, hinstant, -⟩ := hbefore value hvalue
  have hmem : instant ∈ instants stored := mem_instants.mpr ⟨value, hvalue, hinstant⟩
  have hnonempty : instants stored ≠ [] := List.ne_nil_of_mem hmem
  obtain ⟨created, hcreated⟩ := Option.ne_none_iff_exists'.mp fun h => hnonempty (oldest_eq_none_iff.mp h)
  obtain ⟨last, hlast⟩ := Option.ne_none_iff_exists'.mp fun h => hnonempty (newest_eq_none_iff.mp h)
  exact ⟨created, last, hcreated, hlast, (oldest_eq_some hcreated).2 last (newest_eq_some hlast).1⟩

/-- The range of a column is accepted from a start that no timestamp of it is before. -/
theorem timestampRange_of_within {start : Timestamp} (hbefore : ∀ value ∈ stored, StoredBefore value asOf)
    (hstart : ∀ instant ∈ instants stored, ¬ TextBefore instant start) :
    timestampRange (oldest stored) (newest stored) stored.length start asOf =
      .ok { newest := newest stored, oldest := oldest stored } := by
  by_cases hempty : stored = []
  · subst hempty
    rfl
  · obtain ⟨created, last, hcreated, hlast, hle⟩ := exists_oldest_newest hempty hbefore
    obtain ⟨value, hvalue, hinstant⟩ := mem_instants.mp (newest_eq_some hlast).1
    obtain ⟨own, hown, hlastBefore⟩ := hbefore value hvalue
    rw [Option.mem_def, hinstant, Option.some.injEq] at hown
    subst hown
    have hcount : (stored.length : Int) ≠ 0 := by
      have := List.length_pos_of_ne_nil hempty
      omega
    unfold timestampRange
    rw [if_neg hcount, hcreated, hlast]
    apply throwIf_bind_eq_ok_iff.mpr
    refine ⟨?_, rfl⟩
    · rintro (hold | hlt | hnot)
      · exact hstart created (oldest_eq_some hcreated).1 hold
      · rw [Timestamp.lt_iff_ms] at hlt
        omega
      · exact hnot hlastBefore

theorem not_before_start (hwithin : Within starts asOf stored) :
    ∀ instant ∈ instants stored, ¬ TextBefore instant starts.w60m := by
  intro instant hmem
  obtain ⟨value, hvalue, hinstant⟩ := mem_instants.mp hmem
  obtain ⟨own, hown, hnot⟩ := (hwithin value hvalue).1
  rw [Option.mem_def, hinstant, Option.some.injEq] at hown
  exact hown ▸ hnot

/-- A stored timestamp of a shorter window stands in the longer ones. -/
theorem storedFrom_of_le {value : StoredTimestamp} {early late : Timestamp} (hbefore : StoredBefore value asOf)
    (hle : early.ms ≤ late.ms) (hend : late.ms ≤ asOf.ms) (hfrom : StoredFrom value late) :
    StoredFrom value early := by
  obtain ⟨instant, hinstant, hfour, -⟩ := hbefore
  obtain ⟨own, hown, hnot⟩ := hfrom
  rw [Option.mem_def] at hinstant hown
  rw [hinstant, Option.some.injEq] at hown
  subst hown
  refine ⟨instant, hinstant, ?_⟩
  rintro ⟨hearly, hlt⟩
  apply hnot
  rw [Timestamp.lt_iff_ms] at hlt
  unfold Timestamp.FourDigitYear at hearly hfour
  refine ⟨?_, Timestamp.lt_iff_ms.mpr (by omega)⟩
  unfold Timestamp.FourDigitYear
  omega

/-- The timestamps of each window, counted; all stand in the longest one. -/
def windowCounts (starts : Windowed Timestamp) (stored : List StoredTimestamp) : Windowed Nat where
  w5m := stored.countP fun value => StoredFrom value starts.w5m
  w15m := stored.countP fun value => StoredFrom value starts.w15m
  w60m := stored.length

theorem windowCounts_eq (hwithin : Within starts asOf stored) (window : AlertWindowKey) :
    (windowCounts starts stored).at window = stored.countP fun value => StoredFrom value (starts.at window) := by
  cases window with
  | w5m => rfl
  | w15m => rfl
  | w60m =>
    have hall : ∀ value ∈ stored, decide (StoredFrom value starts.w60m) = true :=
      fun value hvalue => decide_eq_true (hwithin value hvalue).1
    exact (List.countP_eq_length.mpr hall).symm

theorem windowCounts_nondecreasing (hwindows : Windows starts asOf) (hwithin : Within starts asOf stored) :
    nondecreasing (counted (windowCounts starts stored)) := by
  have hfirst := hwindows.first
  have hsecond := hwindows.second
  constructor
  · have hle : (windowCounts starts stored).w5m ≤ (windowCounts starts stored).w15m := by
      apply List.countP_mono_left
      intro value hvalue hfrom
      have hbefore := (hwithin value hvalue).2
      exact decide_eq_true (storedFrom_of_le hbefore (by omega) (by omega) (of_decide_eq_true hfrom))
    exact Int.ofNat_le.mpr hle
  · have hle : (windowCounts starts stored).w15m ≤ (windowCounts starts stored).w60m := List.countP_le_length
    exact Int.ofNat_le.mpr hle

/-- A window has timestamps exactly when the newest one stands in it. -/
theorem windowCounts_agree (hwithin : Within starts asOf stored) :
    windowsAgree (counted (windowCounts starts stored)) (newest stored) starts := by
  intro window _
  rw [counted, Windowed.at_map, windowCounts_eq hwithin window]
  constructor
  · intro hpositive
    obtain ⟨value, hvalue, hfrom⟩ := List.countP_pos_iff.mp (by exact_mod_cast hpositive)
    obtain ⟨instant, hinstant, hnot⟩ := of_decide_eq_true hfrom
    have hmem : instant ∈ instants stored := mem_instants.mpr ⟨value, hvalue, hinstant⟩
    obtain ⟨last, hlast⟩ := Option.ne_none_iff_exists'.mp fun h =>
      List.ne_nil_of_mem hmem (newest_eq_none_iff.mp h)
    refine ⟨last, hlast, ?_⟩
    rintro ⟨hfour, hlt⟩
    have hle := (newest_eq_some hlast).2 instant hmem
    rw [Timestamp.lt_iff_ms] at hlt
    exact hnot ⟨hfour, Timestamp.lt_iff_ms.mpr (by omega)⟩
  · rintro ⟨last, hlast, hnot⟩
    obtain ⟨value, hvalue, hinstant⟩ := mem_instants.mp (newest_eq_some hlast).1
    have hfrom : StoredFrom value (starts.at window) := ⟨last, hinstant, hnot⟩
    have hpositive : 0 < stored.countP fun value => StoredFrom value (starts.at window) :=
      List.countP_pos_iff.mpr ⟨value, hvalue, decide_eq_true hfrom⟩
    exact_mod_cast hpositive

end stored

section rows

variable {starts : Windowed Timestamp} {asOf : Timestamp}

theorem sourceCount_of_le {value : Nat} {maximum : Int} (hsafe : maximum ≤ MAX_SAFE_INTEGER)
    (hle : (value : Int) ≤ maximum) : sourceCount value maximum = .ok (some (value : Int)) :=
  sourceCount_eq_ok_some_iff.mpr ⟨hle.trans hsafe, hle, rfl⟩

theorem evidence_safe : MAX_EVIDENCE_COUNT ≤ MAX_SAFE_INTEGER := by decide

theorem ratio_safe : MAX_RATIO_COUNT ≤ MAX_SAFE_INTEGER := by decide

theorem not_malformed_of_before {value : StoredTimestamp} (hbefore : StoredBefore value asOf) : value ≠ .malformed := by
  rintro rfl
  obtain ⟨instant, hinstant, -⟩ := hbefore
  cases hinstant

/-- The malformed rows of those that are before an instant are counted as none. -/
theorem sourceCount_malformed {T : Type} {rows : List T} (malformed : T → Bool)
    (hnone : ∀ row ∈ rows, malformed row = false) :
    sourceCount (rows.countP malformed) MAX_EVIDENCE_COUNT = .ok (some 0) := by
  have hzero : rows.countP malformed = 0 := by
    rw [List.countP_eq_zero]
    intro row hrow htrue
    rw [hnone row hrow] at htrue
    cases htrue
  rw [hzero]
  exact sourceCount_of_le evidence_safe (by decide)

theorem not_before_first {stored : List StoredTimestamp} {instant : Timestamp} (hmem : instant ∈ instants stored) :
    ¬ TextBefore instant FIRST_TIMESTAMP := by
  rintro ⟨-, hlt⟩
  obtain ⟨value, -, hinstant⟩ := mem_instants.mp hmem
  obtain ⟨hlow, -⟩ := StoredTimestamp.instant_fourDigit hinstant
  rw [Timestamp.lt_iff_ms] at hlt
  simp only [FIRST_TIMESTAMP] at hlt
  omega

theorem currentValid_of_counts {dead unresolved : Nat} {age : Option Int} (hwithin : dead ≤ unresolved)
    (hlimit : (unresolved : Int) ≤ MAX_EVIDENCE_COUNT) (hage : ∀ own ∈ age, 0 ≤ own ∧ own ≤ MAX_EVIDENCE_COUNT)
    (hagree : unresolved = 0 ↔ age = none) : CurrentValid ⟨dead, unresolved, age⟩ := by
  have hdead : (dead : Int) ≤ unresolved := Int.ofNat_le.mpr hwithin
  refine ⟨⟨Int.natCast_nonneg _, hdead.trans hlimit⟩, ⟨Int.natCast_nonneg _, hlimit⟩, hage, hdead, ?_⟩
  rw [← hagree]
  exact Int.natCast_eq_zero

/-- The current figures of rows within the limits are accepted. -/
theorem parseCurrentSnapshot_of_rows {rows : List LogoutDelivery}
    (hbefore : ∀ row ∈ rows, StoredBefore row.createdAt asOf) (hcount : (rows.length : Int) ≤ MAX_EVIDENCE_COUNT)
    (hage : ∀ instant ∈ instants (rows.map (·.createdAt)), ageSeconds asOf instant ≤ MAX_EVIDENCE_COUNT) :
    ∃ current, parseCurrentSnapshot (CURRENT_PROJECTION rows) asOf = .ok (some current) ∧ CurrentValid current := by
  have hdead : rows.countP (fun row => row.status = .dead) ≤ rows.length := List.countP_le_length
  have hstored : ∀ value ∈ rows.map (·.createdAt), StoredBefore value asOf := by
    intro value hvalue
    obtain ⟨row, hrow, rfl⟩ := List.mem_map.mp hvalue
    exact hbefore row hrow
  have hrange := timestampRange_of_within hstored fun _ hmem => not_before_first hmem
  rw [List.length_map] at hrange
  have hinvalid := sourceCount_malformed (fun row : LogoutDelivery => row.createdAt = .malformed)
    fun row hrow => decide_eq_false (not_malformed_of_before (hbefore row hrow))
  unfold parseCurrentSnapshot CURRENT_PROJECTION
  simp only
  rw [sourceCount_of_le evidence_safe hcount, ok_bind, sourceCount_of_le evidence_safe (by omega), ok_bind, hinvalid,
    ok_bind]
  simp only
  rw [throwIf_bind_of_not (by omega), hrange, ok_bind]
  cases holdest : oldest (rows.map (·.createdAt)) with
  | none =>
    refine ⟨_, rfl, ?_⟩
    have hempty : rows = [] := by
      by_contra hne
      obtain ⟨created, -, hcreated, -⟩ := exists_oldest_newest (fun h => hne (List.map_eq_nil_iff.mp h)) hstored
      rw [holdest] at hcreated
      cases hcreated
    subst hempty
    exact currentValid_of_counts hdead hcount (fun _ hown => by cases hown) (iff_of_true rfl rfl)
  | some created =>
    obtain ⟨hmem, -⟩ := oldest_eq_some holdest
    have hle := hage created hmem
    have hpositive : rows ≠ [] := by
      rintro rfl
      cases hmem
    obtain ⟨value, hvalue, hinstant⟩ := mem_instants.mp hmem
    obtain ⟨own, hown, -, hlt⟩ := hstored value hvalue
    rw [Option.mem_def, hinstant, Option.some.injEq] at hown
    subst hown
    rw [Timestamp.lt_iff_ms] at hlt
    simp only
    rw [if_neg]
    · refine ⟨_, rfl, currentValid_of_counts hdead hcount ?_ ?_⟩
      · intro age hown
        rw [Option.mem_def, Option.some.injEq] at hown
        unfold ageSeconds at hle
        omega
      · exact iff_of_false (List.length_pos_of_ne_nil hpositive).ne' (Option.some_ne_none _)
    · unfold ageSeconds at hle
      omega

section deliveries

variable {rows : List LogoutDelivery}

theorem eligible_eq_windowCounts :
    (DELIVERY_WINDOW_PROJECTION starts rows).eligible = windowCounts starts (rows.map (·.createdAt)) := by
  rw [windowCounts, List.countP_map, List.countP_map, List.length_map]
  rfl

theorem unresolved_nondecreasing (hwindows : Windows starts asOf) (hwithin : Within starts asOf (rows.map (·.createdAt))) :
    nondecreasing (counted (DELIVERY_WINDOW_PROJECTION starts rows).unresolved) := by
  have hfirst := hwindows.first
  have hsecond := hwindows.second
  constructor
  · apply Int.ofNat_le.mpr
    apply List.countP_mono_left
    intro row hrow hselected
    obtain ⟨hfrom, hunresolved⟩ := of_decide_eq_true hselected
    have hbefore := (hwithin row.createdAt (List.mem_map_of_mem hrow)).2
    exact decide_eq_true ⟨storedFrom_of_le hbefore (by omega) (by omega) hfrom, hunresolved⟩
  · apply Int.ofNat_le.mpr
    apply List.countP_mono_left
    intro row _ hselected
    exact decide_eq_true (of_decide_eq_true hselected).2

theorem unresolved_le_eligible (window : AlertWindowKey) :
    (DELIVERY_WINDOW_PROJECTION starts rows).unresolved.at window ≤
      (DELIVERY_WINDOW_PROJECTION starts rows).eligible.at window := by
  cases window with
  | w5m =>
    apply List.countP_mono_left
    exact fun _ _ hselected => decide_eq_true (of_decide_eq_true hselected).1
  | w15m =>
    apply List.countP_mono_left
    exact fun _ _ hselected => decide_eq_true (of_decide_eq_true hselected).1
  | w60m => exact List.countP_le_length

theorem windowCounts_le {stored : List StoredTimestamp} {maximum : Int} (hcount : (stored.length : Int) ≤ maximum)
    (window : AlertWindowKey) : ((windowCounts starts stored).at window : Int) ≤ maximum := by
  refine le_trans (Int.ofNat_le.mpr ?_) hcount
  cases window with
  | w5m => exact List.countP_le_length
  | w15m => exact List.countP_le_length
  | w60m => exact le_rfl

/-- The windows of rows within the limits are accepted. -/
theorem parseDeliveryWindows_of_rows (hwindows : Windows starts asOf)
    (hwithin : Within starts asOf (rows.map (·.createdAt))) (hcount : (rows.length : Int) ≤ MAX_RATIO_COUNT) :
    parseDeliveryWindows (DELIVERY_WINDOW_PROJECTION starts rows) starts asOf =
      .ok (some ⟨counted (DELIVERY_WINDOW_PROJECTION starts rows).eligible,
        counted (DELIVERY_WINDOW_PROJECTION starts rows).unresolved⟩) := by
  have hlength : ((rows.map (·.createdAt)).length : Int) ≤ MAX_RATIO_COUNT := by rwa [List.length_map]
  have heligibleLe : ∀ window, ((DELIVERY_WINDOW_PROJECTION starts rows).eligible.at window : Int) ≤
      MAX_RATIO_COUNT := by
    rw [eligible_eq_windowCounts]
    exact windowCounts_le hlength
  obtain ⟨eligibleRead, heligible, heligibleKnown⟩ := sourceCounts_of_le ratio_safe heligibleLe
  obtain ⟨unresolvedRead, hunresolved, hunresolvedKnown⟩ := sourceCounts_of_le ratio_safe fun window =>
    (Int.ofNat_le.mpr (unresolved_le_eligible window)).trans (heligibleLe window)
  have hinvalid : sourceCount (DELIVERY_WINDOW_PROJECTION starts rows).invalidCreatedAtCount MAX_EVIDENCE_COUNT =
      .ok (some 0) :=
    sourceCount_malformed _ fun row hrow =>
      decide_eq_false (not_malformed_of_before (hwithin row.createdAt (List.mem_map_of_mem hrow)).2)
  have hrange := timestampRange_of_within (fun value hvalue => (hwithin value hvalue).2) (not_before_start hwithin)
  have hagree := windowCounts_agree hwithin
  have hnested := windowCounts_nondecreasing hwindows hwithin
  rw [← eligible_eq_windowCounts] at hagree hnested
  unfold parseDeliveryWindows
  rw [heligible, ok_bind, hunresolved, ok_bind, hinvalid, ok_bind, heligibleKnown, hunresolvedKnown]
  simp only
  rw [throwIf_bind_of_not]
  · rw [List.length_map] at hrange
    have hrangeRow : timestampRange (DELIVERY_WINDOW_PROJECTION starts rows).oldestCreatedAt
        (DELIVERY_WINDOW_PROJECTION starts rows).newestCreatedAt
        (counted (DELIVERY_WINDOW_PROJECTION starts rows).eligible).w60m starts.w60m asOf = _ := hrange
    rw [hrangeRow, ok_bind, throwIf_bind_of_not (not_not.mpr hagree)]
    rfl
  · rintro (hzero | hnot | hnot | ⟨window, -, hgt⟩)
    · exact hzero rfl
    · exact hnot hnested
    · exact hnot (unresolved_nondecreasing hwindows hwithin)
    · rw [counted, counted, Windowed.at_map, Windowed.at_map] at hgt
      exact absurd (Int.ofNat_le.mpr (unresolved_le_eligible window)) (not_le.mpr hgt)

end deliveries

section leases

variable {rows : List LogoutDeliveryAttempt}

/-- The attempts have ended within the longest window. -/
def LeasesWithin (starts : Windowed Timestamp) (asOf : Timestamp) (rows : List LogoutDeliveryAttempt) : Prop :=
  ∀ row ∈ rows, LeaseExpiredWithin starts asOf row

theorem completed_of_within (hrows : LeasesWithin starts asOf rows) {row : LogoutDeliveryAttempt} (hrow : row ∈ rows) :
    ∃ completedAt, row.completedAt = some completedAt ∧ StoredFrom completedAt starts.w60m ∧
      StoredBefore completedAt asOf := by
  obtain ⟨⟨completedAt, hcompleted, hfrom⟩, ⟨own, hown, hbefore⟩, -⟩ := hrows row hrow
  rw [Option.mem_def] at hcompleted hown
  rw [hcompleted, Option.some.injEq] at hown
  exact ⟨completedAt, hcompleted, hfrom, hown ▸ hbefore⟩

theorem completed_within (hrows : LeasesWithin starts asOf rows) :
    Within starts asOf (rows.filterMap (·.completedAt)) := by
  intro value hvalue
  obtain ⟨row, hrow, hsome⟩ := List.mem_filterMap.mp hvalue
  obtain ⟨completedAt, hcompleted, hboth⟩ := completed_of_within hrows hrow
  rw [hsome, Option.some.injEq] at hcompleted
  exact hcompleted ▸ hboth

theorem leaseExpired_eq_windowCounts (hrows : LeasesWithin starts asOf rows) :
    (LEASE_WINDOW_PROJECTION starts rows).leaseExpired = windowCounts starts (rows.filterMap (·.completedAt)) := by
  have hcount : ∀ bound, rows.countP (fun row => CompletedFrom row bound) =
      (rows.filterMap (·.completedAt)).countP fun value => StoredFrom value bound := by
    intro bound
    induction rows with
    | nil => rfl
    | cons row rows ih =>
      obtain ⟨completedAt, hcompleted, -⟩ := completed_of_within hrows List.mem_cons_self
      have hrest : LeasesWithin starts asOf rows := fun other hother => hrows other (List.mem_cons_of_mem row hother)
      have hsame : CompletedFrom row bound ↔ StoredFrom completedAt bound := by
        rw [CompletedFrom, hcompleted]
        simp
      rw [List.countP_cons, List.filterMap_cons_some hcompleted, List.countP_cons, ih hrest]
      simp only [hsame]
  have hlength : rows.length = (rows.filterMap (·.completedAt)).length := by
    rw [List.length_filterMap_eq_countP, eq_comm, List.countP_eq_length]
    intro row hrow
    obtain ⟨completedAt, hcompleted, -⟩ := completed_of_within hrows hrow
    rw [hcompleted]
    rfl
  rw [LEASE_WINDOW_PROJECTION, windowCounts, hcount, hcount, hlength]

/-- The leases of rows within the limits are accepted. -/
theorem parseLeaseWindows_of_rows (hwindows : Windows starts asOf) (hrows : LeasesWithin starts asOf rows)
    (hcount : (rows.length : Int) ≤ MAX_EVIDENCE_COUNT) :
    parseLeaseWindows (LEASE_WINDOW_PROJECTION starts rows) starts asOf =
      .ok (some (counted (LEASE_WINDOW_PROJECTION starts rows).leaseExpired)) := by
  have hwithin := completed_within hrows
  have hcounts := leaseExpired_eq_windowCounts hrows
  have hlength : rows.length = (rows.filterMap (·.completedAt)).length := congrArg (·.w60m) hcounts
  have hle : ∀ window, ((LEASE_WINDOW_PROJECTION starts rows).leaseExpired.at window : Int) ≤ MAX_EVIDENCE_COUNT := by
    rw [hcounts]
    exact windowCounts_le (hlength ▸ hcount)
  obtain ⟨read, hread, hknown⟩ := sourceCounts_of_le evidence_safe hle
  have hinvalid : sourceCount (LEASE_WINDOW_PROJECTION starts rows).invalidCompletedAtCount MAX_EVIDENCE_COUNT =
      .ok (some 0) := by
    apply sourceCount_malformed
    intro row hrow
    obtain ⟨completedAt, hcompleted, -, hbefore⟩ := completed_of_within hrows hrow
    apply decide_eq_false
    rw [hcompleted, Option.some.injEq]
    exact not_malformed_of_before hbefore
  have hrange := timestampRange_of_within (fun value hvalue => (hwithin value hvalue).2) (not_before_start hwithin)
  have hagree := windowCounts_agree hwithin
  have hnested := windowCounts_nondecreasing hwindows hwithin
  rw [← hcounts] at hagree hnested
  rw [← hlength] at hrange
  unfold parseLeaseWindows
  rw [hread, ok_bind, hinvalid, ok_bind, hknown]
  simp only
  rw [throwIf_bind_of_not]
  · have hrangeRow : timestampRange (LEASE_WINDOW_PROJECTION starts rows).oldestCompletedAt
        (LEASE_WINDOW_PROJECTION starts rows).newestCompletedAt
        (counted (LEASE_WINDOW_PROJECTION starts rows).leaseExpired).w60m starts.w60m asOf = _ := hrange
    rw [hrangeRow, ok_bind, throwIf_bind_of_not (not_not.mpr hagree)]
    rfl
  · rintro (hzero | hnot)
    · exact hzero rfl
    · exact hnot hnested

end leases

end rows

section clients

variable {P R T : Type} {parser : R → Fallible (Option T)}

theorem parseClientEntries_of_rows {rows : List (Text × R)} (hnodup : (rows.map Prod.fst).Nodup)
    (hidentity : ∀ row ∈ rows, 1 ≤ row.1.length ∧ row.1.length ≤ 512)
    (hparser : ∀ row ∈ rows, ∃ metrics, parser row.2 = .ok (some metrics)) {before : Dictionary Text T}
    (hfresh : ∀ row ∈ rows, row.1 ∉ before.keys) :
    ∃ parsed, parseClientEntries parser rows before = .ok (some parsed) := by
  induction rows generalizing before with
  | nil => exact ⟨before, rfl⟩
  | cons row rows ih =>
    obtain ⟨clientId, row⟩ := row
    obtain ⟨hnew, hnodup⟩ := List.nodup_cons.mp hnodup
    obtain ⟨⟨hlow, hhigh⟩, hidentity⟩ := List.forall_mem_cons.mp hidentity
    obtain ⟨⟨metrics, hmetrics⟩, hparser⟩ := List.forall_mem_cons.mp hparser
    obtain ⟨hclient, hfresh⟩ := List.forall_mem_cons.mp hfresh
    have hlater : ∀ row ∈ rows, row.1 ∉ (before.set clientId metrics).keys := by
      intro other hother hmem
      rw [Dictionary.keys_set_of_not_mem hclient, List.mem_append, List.mem_singleton] at hmem
      obtain hold | hsame := hmem
      · exact hfresh other hother hold
      · exact hnew (hsame ▸ List.mem_map_of_mem hother)
    obtain ⟨parsed, hparsed⟩ := ih hnodup hidentity hparser hlater
    refine ⟨parsed, ?_⟩
    have hname : requiredRawIdentity clientId = .ok clientId := by
      rw [requiredRawIdentity, throwIf_bind_of_not (by simp only at hlow hhigh; omega)]
      rfl
    rw [parseClientEntries, hname, ok_bind, throwIf_bind_of_not hclient, hmetrics, ok_bind]
    exact hparsed

/-- The rows of a grouped query are accepted when those of each client are. -/
theorem parseClientRows_of_groups {clientId : P → Text} {rows : List P} {projection : List P → R} {nonzero : T → Int}
    (hlimit : ((clientGroups clientId rows).map (Prod.map id projection)).length ≤ MAX_DIMENSION_GROUPS)
    (hidentity : ∀ row ∈ rows, 1 ≤ (clientId row).length ∧ (clientId row).length ≤ 512)
    (hparser : ∀ members, members ≠ [] → (∀ row ∈ members, row ∈ rows) → members.length ≤ rows.length →
      ∃ metrics, parser (projection members) = .ok (some metrics) ∧ nonzero metrics ≠ 0) :
    ∃ parsed, parseClientRows ((clientGroups clientId rows).map (Prod.map id projection)) (nonempty parser nonzero) =
      .ok (some parsed) := by
  rw [parseClientRows, if_neg (by omega)]
  rw [clientGroups_of_le hlimit]
  apply parseClientEntries_of_rows
  · rw [List.map_map]
    exact sql.groups_keys_nodup
  · intro row hrow
    obtain ⟨⟨value, members⟩, hmem, rfl⟩ := List.mem_map.mp hrow
    obtain ⟨first, hfirst, rfl⟩ := sql.mem_groups_keys.mp (List.mem_map_of_mem (f := Prod.fst) hmem)
    exact hidentity first hfirst
  · intro row hrow
    obtain ⟨⟨value, members⟩, hmem, rfl⟩ := List.mem_map.mp hrow
    have hmembers := sql.mem_groups hmem
    obtain ⟨metrics, hmetrics, hnonzero⟩ := hparser members (sql.groups_ne_nil hmem)
      (fun row hrow => (sql.mem_group.mp (hmembers ▸ hrow)).1)
      (hmembers ▸ List.length_filter_le _ _)
    refine ⟨metrics, ?_⟩
    rw [Prod.map_snd, nonempty, hmetrics, ok_bind, throwIf_bind_of_not]
    · rfl
    · rintro ⟨other, hother, hzero⟩
      rw [Option.mem_def, Option.some.injEq] at hother
      exact hnonzero (hother ▸ hzero)
  · intro row _
    exact List.not_mem_nil

end clients

section limits

variable {source : LogoutSource} {starts : Windowed Timestamp} {asOf : Timestamp}

/-- The rows of the source are within the limits of the reader. -/
structure WithinLimits (source : LogoutSource) (starts : Windowed Timestamp) (asOf : Timestamp) : Prop where
  current : ((currentRows source asOf).length : Int) ≤ MAX_EVIDENCE_COUNT
  age : ∀ instant ∈ instants ((currentRows source asOf).map (·.createdAt)), ageSeconds asOf instant ≤ MAX_EVIDENCE_COUNT
  delivery : ((deliveryRows source starts asOf).length : Int) ≤ MAX_RATIO_COUNT
  lease : ((source.attempts.filter fun row => LeaseExpiredWithin starts asOf row).length : Int) ≤ MAX_EVIDENCE_COUNT
  currentClients : (ALERT_LOGOUT_CURRENT_CLIENT_QUERY source asOf).length ≤ MAX_DIMENSION_GROUPS
  deliveryClients : (ALERT_LOGOUT_DELIVERY_CLIENT_QUERY source starts asOf).length ≤ MAX_DIMENSION_GROUPS
  leaseClients : (ALERT_LOGOUT_LEASE_CLIENT_QUERY source starts asOf).length ≤ MAX_DIMENSION_GROUPS
  clientIds : ∀ delivery ∈ source.deliveries, 1 ≤ delivery.clientId.length ∧ delivery.clientId.length ≤ 512

theorem currentRows_before {row : LogoutDelivery} (hrow : row ∈ currentRows source asOf) :
    StoredBefore row.createdAt asOf :=
  (of_decide_eq_true (List.mem_filter.mp hrow).2).2

theorem deliveryRows_within :
    ∀ row ∈ deliveryRows source starts asOf, StoredFrom row.createdAt starts.w60m ∧ StoredBefore row.createdAt asOf := by
  intro row hrow
  obtain ⟨hfrom, hbefore, -⟩ := of_decide_eq_true (List.mem_filter.mp hrow).2
  exact ⟨hfrom, hbefore⟩

theorem within_map {rows : List LogoutDelivery}
    (hrows : ∀ row ∈ rows, StoredFrom row.createdAt starts.w60m ∧ StoredBefore row.createdAt asOf) :
    Within starts asOf (rows.map (·.createdAt)) := by
  intro value hvalue
  obtain ⟨row, hrow, rfl⟩ := List.mem_map.mp hvalue
  exact hrows row hrow

theorem metricsValid_of_rows {deliveries : List LogoutDelivery} {attempts : List LogoutDeliveryAttempt}
    (hdeliveries : (deliveries.length : Int) ≤ MAX_RATIO_COUNT) (hattempts : (attempts.length : Int) ≤ MAX_EVIDENCE_COUNT)
    (hrows : LeasesWithin starts asOf attempts) (window : AlertWindowKey) :
    MetricsValid (windowMetrics
      ⟨counted (DELIVERY_WINDOW_PROJECTION starts deliveries).eligible,
        counted (DELIVERY_WINDOW_PROJECTION starts deliveries).unresolved⟩
      (counted (LEASE_WINDOW_PROJECTION starts attempts).leaseExpired) window) := by
  have hwithin : ((DELIVERY_WINDOW_PROJECTION starts deliveries).unresolved.at window : Int) ≤
      (DELIVERY_WINDOW_PROJECTION starts deliveries).eligible.at window :=
    Int.ofNat_le.mpr (unresolved_le_eligible window)
  have hcounts := leaseExpired_eq_windowCounts hrows
  have hlength : attempts.length = (attempts.filterMap (·.completedAt)).length := congrArg (·.w60m) hcounts
  have heligible : ((DELIVERY_WINDOW_PROJECTION starts deliveries).eligible.at window : Int) ≤ MAX_RATIO_COUNT := by
    rw [eligible_eq_windowCounts]
    exact windowCounts_le (by rwa [List.length_map]) window
  have hlease : ((LEASE_WINDOW_PROJECTION starts attempts).leaseExpired.at window : Int) ≤ MAX_EVIDENCE_COUNT := by
    rw [hcounts]
    exact windowCounts_le (hlength ▸ hattempts) window
  simp only [windowMetrics, counted, Windowed.at_map]
  exact ⟨⟨Int.natCast_nonneg _, heligible⟩, ⟨Int.natCast_nonneg _, hlease⟩,
    ⟨Int.natCast_nonneg _, hwithin.trans heligible⟩, hwithin⟩

/-- Within the limits the global observation is built. -/
theorem globalObservation_of_limits (hwindows : Windows starts asOf) (hlimits : WithinLimits source starts asOf) :
    ∃ global, globalObservation source starts asOf = .ok (some global) := by
  obtain ⟨current, hcurrent, hvalid⟩ :=
    parseCurrentSnapshot_of_rows (fun _ hrow => currentRows_before hrow) hlimits.current hlimits.age
  have hwithin : Within starts asOf ((deliveryRows source starts asOf).map (·.createdAt)) :=
    within_map deliveryRows_within
  have hrows : LeasesWithin starts asOf (source.attempts.filter fun row => LeaseExpiredWithin starts asOf row) :=
    fun _ hrow => of_decide_eq_true (List.mem_filter.mp hrow).2
  have hdelivery := parseDeliveryWindows_of_rows hwindows hwithin hlimits.delivery
  have hlease := parseLeaseWindows_of_rows hwindows hrows hlimits.lease
  have heligibleNested := windowCounts_nondecreasing hwindows hwithin
  have hleaseNested := windowCounts_nondecreasing hwindows (completed_within hrows)
  rw [← eligible_eq_windowCounts] at heligibleNested
  rw [← leaseExpired_eq_windowCounts hrows] at hleaseNested
  have haccepted : AlertDimension.global.Accepted LOGOUT_DIMENSIONS := by
    refine ⟨by decide, ?_⟩
    intro kind reference hkind
    cases hkind
  obtain ⟨global, hbuild⟩ := buildObservation_of_valid asOf haccepted hvalid
    (metricsValid_of_rows hlimits.delivery hlimits.lease hrows)
    ⟨heligibleNested, hleaseNested, unresolved_nondecreasing hwindows hwithin⟩
  refine ⟨global, ?_⟩
  rw [globalObservation, ALERT_LOGOUT_CURRENT_GLOBAL_QUERY, hcurrent, ok_bind, ALERT_LOGOUT_DELIVERY_GLOBAL_QUERY,
    hdelivery, ok_bind, ALERT_LOGOUT_LEASE_GLOBAL_QUERY, hlease, ok_bind]
  simp only
  rw [hbuild]
  rfl

theorem ne_zero_of_counted {T : Type} {rows : List T} (hne : rows ≠ []) : (rows.length : Int) ≠ 0 := by
  have := List.length_pos_of_ne_nil hne
  omega

theorem joined_client {joined : LogoutDelivery × LogoutDeliveryAttempt} (hjoined : joined ∈ joinedAttempts source) :
    joined.1 ∈ source.deliveries := by
  obtain ⟨attempt, -, hmem⟩ := List.mem_flatMap.mp hjoined
  obtain ⟨delivery, hdelivery, rfl⟩ := List.mem_map.mp hmem
  exact (List.mem_filter.mp hdelivery).1

/-- Within the limits the rows of the clients are accepted. -/
theorem clientProjections_of_limits (hwindows : Windows starts asOf) (hlimits : WithinLimits source starts asOf) :
    ∃ projections, clientProjections source starts asOf = .ok (some projections) := by
  obtain ⟨currentByClient, hcurrent⟩ : ∃ parsed, parseClientRows (ALERT_LOGOUT_CURRENT_CLIENT_QUERY source asOf)
      (nonempty (fun row => parseCurrentSnapshot row asOf) (·.currentUnresolved)) = .ok (some parsed) := by
    apply parseClientRows_of_groups hlimits.currentClients
    · intro row hrow
      exact hlimits.clientIds row (List.mem_filter.mp hrow).1
    · intro members hne hmembers hlength
      have hage : ∀ instant ∈ instants (members.map (·.createdAt)), ageSeconds asOf instant ≤ MAX_EVIDENCE_COUNT := by
        intro instant hmem
        obtain ⟨row, hrow, hinstant⟩ := instants_map.mp hmem
        exact hlimits.age instant (instants_map.mpr ⟨row, hmembers row hrow, hinstant⟩)
      obtain ⟨current, hparse, -⟩ := parseCurrentSnapshot_of_rows
        (fun row hrow => currentRows_before (hmembers row hrow)) ((Int.ofNat_le.mpr hlength).trans hlimits.current) hage
      refine ⟨current, hparse, ?_⟩
      rw [(parseCurrentSnapshot_eq_some hparse).1]
      exact ne_zero_of_counted hne
  obtain ⟨deliveryByClient, hdelivery⟩ : ∃ parsed,
      parseClientRows (ALERT_LOGOUT_DELIVERY_CLIENT_QUERY source starts asOf)
        (nonempty (fun row => parseDeliveryWindows row starts asOf) (·.eligible.w60m)) = .ok (some parsed) := by
    apply parseClientRows_of_groups hlimits.deliveryClients
    · intro row hrow
      exact hlimits.clientIds row (List.mem_filter.mp hrow).1
    · intro members hne hmembers hlength
      have hwithin := within_map fun row hrow => deliveryRows_within row (hmembers row hrow)
      refine ⟨_, parseDeliveryWindows_of_rows hwindows hwithin ((Int.ofNat_le.mpr hlength).trans hlimits.delivery), ?_⟩
      exact ne_zero_of_counted hne
  obtain ⟨leaseByClient, hlease⟩ : ∃ parsed, parseClientRows (ALERT_LOGOUT_LEASE_CLIENT_QUERY source starts asOf)
      (nonempty (fun row => parseLeaseWindows row starts asOf) (·.w60m)) = .ok (some parsed) := by
    have hlimit := hlimits.leaseClients
    unfold ALERT_LOGOUT_LEASE_CLIENT_QUERY at hlimit ⊢
    apply parseClientRows_of_groups hlimit
    · intro joined hjoined
      exact hlimits.clientIds joined.1 (joined_client (List.mem_filter.mp hjoined).1)
    · intro members hne hmembers hlength
      have hrows : LeasesWithin starts asOf (members.map Prod.snd) := by
        intro row hrow
        obtain ⟨joined, hjoined, rfl⟩ := List.mem_map.mp hrow
        exact of_decide_eq_true (List.mem_filter.mp (hmembers joined hjoined)).2
      have hcount : ((members.map Prod.snd).length : Int) ≤ MAX_EVIDENCE_COUNT := by
        have hlease := hlimits.lease
        rw [← joined_lease_rows, List.length_map] at hlease
        rw [List.length_map]
        omega
      refine ⟨_, parseLeaseWindows_of_rows hwindows hrows hcount, ?_⟩
      exact ne_zero_of_counted fun h => hne (List.map_eq_nil_iff.mp h)
  refine ⟨⟨currentByClient, deliveryByClient, leaseByClient⟩, ?_⟩
  rw [clientProjections, hcurrent, ok_bind, hdelivery, ok_bind, hlease, ok_bind]
  rfl

end limits

end pgid.alert.logout
