import PgidSso.OAuth.Query

/-! What the check of a signed query accepts, what its verdict depends on, and that a browser
is sent to the account selection only after it. -/

namespace pgid.oauth

open form

section canonical

theorem entryPrecedes_iff {left right : Param} : entryPrecedes left right = true ↔
    (left.name ≠ right.name ∧ Text.precedes left.name right.name = true) ∨
      (left.name = right.name ∧ Text.precedes left.value right.value = true) := by
  rw [entryPrecedes]
  split
  · rename_i hname
    simp [hname]
  · rename_i hname
    simp [hname]

theorem entryPrecedes_total (left right : Param) : (entryPrecedes left right || entryPrecedes right left) = true := by
  rw [Bool.or_eq_true, entryPrecedes_iff, entryPrecedes_iff]
  by_cases hname : left.name = right.name
  · have htotal := Text.precedes_total left.value right.value
    rw [Bool.or_eq_true] at htotal
    obtain hvalue | hvalue := htotal
    · exact .inl (.inr ⟨hname, hvalue⟩)
    · exact .inr (.inr ⟨hname.symm, hvalue⟩)
  · have htotal := Text.precedes_total left.name right.name
    rw [Bool.or_eq_true] at htotal
    obtain hless | hless := htotal
    · exact .inl (.inl ⟨hname, hless⟩)
    · exact .inr (.inl ⟨Ne.symm hname, hless⟩)

theorem entryPrecedes_trans (first second third : Param) (hfirst : entryPrecedes first second = true)
    (hsecond : entryPrecedes second third = true) : entryPrecedes first third = true := by
  rw [entryPrecedes_iff] at hfirst hsecond ⊢
  obtain ⟨hfirstNe, hfirstName⟩ | ⟨hfirstName, hfirstValue⟩ := hfirst
  · obtain ⟨-, hsecondName⟩ | ⟨hsecondName, -⟩ := hsecond
    · refine .inl ⟨?_, Text.precedes_trans _ _ _ hfirstName hsecondName⟩
      intro hsame
      rw [← hsame] at hsecondName
      exact hfirstNe (Text.precedes_antisymm hfirstName hsecondName)
    · exact .inl (hsecondName ▸ ⟨hfirstNe, hfirstName⟩)
  · obtain ⟨hsecondNe, hsecondName⟩ | ⟨hsecondName, hsecondValue⟩ := hsecond
    · exact .inl (hfirstName ▸ ⟨hsecondNe, hsecondName⟩)
    · exact .inr ⟨hfirstName.trans hsecondName, Text.precedes_trans _ _ _ hfirstValue hsecondValue⟩

theorem entryPrecedes_antisymm {left right : Param} (hle : entryPrecedes left right = true)
    (hge : entryPrecedes right left = true) : left = right := by
  rw [entryPrecedes_iff] at hle hge
  obtain ⟨hne, hname⟩ | ⟨hname, hvalue⟩ := hle
  · obtain ⟨-, hback⟩ | ⟨hback, -⟩ := hge
    · exact absurd (Text.precedes_antisymm hname hback) hne
    · exact absurd hback.symm hne
  · obtain ⟨hne, -⟩ | ⟨-, hback⟩ := hge
    · exact absurd hname.symm hne
    · exact Param.ext_texts hname (Text.precedes_antisymm hvalue hback)

/-- Canonical alike are the lists of the same parameters. -/
theorem canonicalizeOAuthQuery_eq_iff {left right : List Param} :
    canonicalizeOAuthQuery left = canonicalizeOAuthQuery right ↔ left.Perm right := by
  have hsorted := fun params : List Param => List.pairwise_mergeSort entryPrecedes_trans entryPrecedes_total params
  constructor
  · intro hsame
    have hlists := serialize_inj hsame
    exact (List.mergeSort_perm left entryPrecedes).symm.trans (hlists ▸ List.mergeSort_perm right entryPrecedes)
  · intro hperm
    have hlists : left.mergeSort entryPrecedes = right.mergeSort entryPrecedes := by
      apply List.Perm.eq_of_pairwise _ (hsorted left) (hsorted right)
      · exact (List.mergeSort_perm left _).trans (hperm.trans (List.mergeSort_perm right _).symm)
      · exact fun _ _ _ _ => entryPrecedes_antisymm
    rw [canonicalizeOAuthQuery, canonicalizeOAuthQuery, hlists]

end canonical

section verdict

variable {crypto : AuthCrypto} {params : List Param} {secret : Text} {now : Timestamp}

theorem markers_eq_iff {markers expected : List Text} :
    ¬ (markers.length ≠ expected.length ∨ (markers.zip expected).any (fun names => names.1 ≠ names.2) = true) ↔
      markers = expected := by
  rw [not_or, not_not]
  induction markers generalizing expected with
  | nil => simp [eq_comm]
  | cons marker markers ih =>
    cases expected with
    | nil => simp
    | cons name expected =>
      rw [List.length_cons, List.length_cons, Nat.succ_inj, List.zip_cons_cons, List.any_cons, Bool.or_eq_true, not_or,
        List.cons.injEq, ← ih, decide_eq_true_eq, not_not]
      tauto

/-- What is checked of a query besides its signature. -/
structure WellMarked (params : List Param) (now : Timestamp) : Prop where
  expires : (Double.ofText? (get params "exp")).isFinite = true ∧
    ((Double.ofText? (get params "exp")).times 1000).less now.ms = false
  issued : (Double.ofText? (get params "ba_iat")).isFinite = true ∧
    (Double.ofText? (get params "ba_iat")).atMost 0 = false
  markers : getAll params "ba_param" = sortedNames (delete params "sig")
  named : ∀ name ∈ ["ba_iat", "ba_param", "exp"], Text.of name ∈ sortedNames (delete params "sig")

theorem isVerifiedProviderOAuthQuery_iff : isVerifiedProviderOAuthQuery crypto params secret now = true ↔
    WellMarked params now ∧ ∃ signature, getAll params "sig" = [signature] ∧ signature ≠ [] ∧
      crypto.constantTimeEqual signature
        (crypto.makeSignature (canonicalizeOAuthQuery (delete params "sig")) secret) = true := by
  rw [isVerifiedProviderOAuthQuery]
  simp only
  split
  · rename_i signature hsig
    split
    · rename_i hrejected
      simp only [Bool.false_eq_true, false_iff]
      rintro ⟨⟨⟨hfinite, hexpires⟩, ⟨hissued, hpositive⟩, -, -⟩, other, hother, hnonempty, -⟩
      rw [hsig, List.singleton_inj] at hother
      subst hother
      simp [hnonempty, hfinite, hexpires, hissued, hpositive] at hrejected
    · rename_i haccepted
      simp only [not_or, Bool.not_eq_true, Bool.not_eq_false] at haccepted
      obtain ⟨hnonempty, hfinite, hexpires, hissued, hpositive⟩ := haccepted
      split
      · rename_i hunmarked
        simp only [Bool.false_eq_true, false_iff]
        rintro ⟨⟨-, -, hmarkers, hnamed⟩, -⟩
        rw [← or_assoc] at hunmarked
        obtain hdiffer | hmissing := hunmarked
        · exact markers_eq_iff.mpr hmarkers hdiffer
        · have hiat := hnamed "ba_iat" (by simp)
          have hparam := hnamed "ba_param" (by simp)
          have hexp := hnamed "exp" (by simp)
          exact hmissing.elim (· hiat) (·.elim (· hparam) (· hexp))
      · rename_i hmarked
        rw [← or_assoc, not_or, markers_eq_iff, not_or, not_or, not_not, not_not, not_not] at hmarked
        obtain ⟨hmarkers, hiat, hparam, hexp⟩ := hmarked
        have hwell : WellMarked params now := by
          refine ⟨⟨hfinite, hexpires⟩, ⟨hissued, hpositive⟩, hmarkers, ?_⟩
          simpa using ⟨hiat, hparam, hexp⟩
        constructor
        · exact fun hequal => ⟨hwell, signature, hsig, hnonempty, hequal⟩
        · rintro ⟨-, other, hother, -, hequal⟩
          rw [hsig, List.singleton_inj] at hother
          exact hother ▸ hequal
  · rename_i hseveral
    simp only [Bool.false_eq_true, false_iff]
    rintro ⟨-, signature, hsig, -⟩
    exact hseveral signature hsig

theorem pairwise_sorted (texts : List Text) : (Text.sorted texts).Pairwise fun left right => Text.precedes left right :=
  List.pairwise_mergeSort Text.precedes_trans Text.precedes_total texts

/-- The names are in strictly increasing order. -/
theorem pairwise_sortedNames (params : List Param) :
    (sortedNames params).Pairwise fun left right => Text.precedes left right = true ∧ left ≠ right := by
  apply List.Pairwise.and (pairwise_sorted _)
  exact (List.mergeSort_perm _ _).nodup_iff.mpr (List.nodup_dedup _)

theorem mem_sortedNames_iff {name : Text} : name ∈ sortedNames params ↔ ∃ param ∈ params, param.name = name := by
  rw [sortedNames, Text.sorted, List.mem_mergeSort, List.mem_dedup, List.mem_map]

theorem mem_delete_iff {name : String} {param : Param} :
    param ∈ delete params name ↔ param ∈ params ∧ param.name ≠ Text.of name := by
  rw [delete, List.mem_filter, decide_eq_true_eq]

theorem get_eq_some_of_mem {name : String} (hname : Text.of name ∈ sortedNames (delete params "sig")) :
    ∃ value, get params name = some value := by
  obtain ⟨param, hparam, hsame⟩ := mem_sortedNames_iff.mp hname
  have hvalue : param.value ∈ getAll params name := by
    apply List.mem_map_of_mem
    rw [List.mem_filter, decide_eq_true_eq]
    exact ⟨(mem_delete_iff.mp hparam).1, hsame⟩
  rw [get]
  cases hvalues : getAll params name with
  | nil =>
    rw [hvalues] at hvalue
    cases hvalue
  | cons value rest => exact ⟨value, rfl⟩

end verdict

section reordering

variable {crypto : AuthCrypto} {left right : List Param} {secret : Text} {now : Timestamp}

theorem getAll_perm (hperm : left.Perm right) (name : String) : (getAll left name).Perm (getAll right name) :=
  (hperm.filter _).map Param.value

theorem sortedNames_perm (hperm : left.Perm right) : sortedNames left = sortedNames right :=
  Text.sorted_eq_iff.mpr (hperm.map Param.name).dedup

/-- The same parameters, with the markers in the same order and the same first values of the
two names that `get` reads. -/
structure Reordered (left right : List Param) : Prop where
  perm : left.Perm right
  markers : getAll left "ba_param" = getAll right "ba_param"
  expires : get left "exp" = get right "exp"
  issued : get left "ba_iat" = get right "ba_iat"

theorem Reordered.symm (horder : Reordered left right) : Reordered right left :=
  ⟨horder.perm.symm, horder.markers.symm, horder.expires.symm, horder.issued.symm⟩

theorem Reordered.wellMarked (horder : Reordered left right) (hwell : WellMarked left now) : WellMarked right now := by
  obtain ⟨hexpires, hissued, hmarkers, hnamed⟩ := hwell
  have hnames := sortedNames_perm (horder.perm.filter fun param => param.name ≠ Text.of "sig")
  rw [horder.expires] at hexpires
  rw [horder.issued] at hissued
  refine ⟨hexpires, hissued, ?_, ?_⟩
  · rw [← horder.markers, hmarkers]
    exact hnames
  · intro name hname
    exact hnames ▸ hnamed name hname

theorem Reordered.accepted (horder : Reordered left right)
    (haccepted : isVerifiedProviderOAuthQuery crypto left secret now = true) :
    isVerifiedProviderOAuthQuery crypto right secret now = true := by
  rw [isVerifiedProviderOAuthQuery_iff] at haccepted ⊢
  obtain ⟨hwell, signature, hsig, hnonempty, hequal⟩ := haccepted
  refine ⟨horder.wellMarked hwell, signature, ?_, hnonempty, ?_⟩
  · have hperm := getAll_perm horder.perm "sig"
    rw [hsig] at hperm
    exact List.perm_singleton.mp hperm.symm
  · have hsame : canonicalizeOAuthQuery (delete left "sig") = canonicalizeOAuthQuery (delete right "sig") :=
      canonicalizeOAuthQuery_eq_iff.mpr (horder.perm.filter _)
    rwa [← hsame]

end reordering

section selection

variable {platform : UrlPlatform} {crypto : AuthCrypto} {secret : Text} {now : Timestamp} {request : Request}
  {response result : Response} {target selected : Url} {current : Bool} {remembered : List AccountChooserSession}

/-- The selected target keeps its path, or it is the account selection of a query that passed. -/
theorem accountSelection_path
    (hselected : accountSelection crypto secret now request target current remembered = some selected) :
    selected.pathname = target.pathname ∨ (selected.pathname = Text.of "/select-account" ∧
      isVerifiedProviderOAuthQuery crypto target.searchParams secret now = true) := by
  rw [accountSelection] at hselected
  split at hselected
  · cases hselected
  · rename_i hinteractive
    split at hselected
    · cases hselected
    · split at hselected
      · cases hselected
      · split at hselected
        · rw [Option.some.injEq] at hselected
          exact .inl (hselected ▸ rfl)
        · rename_i hnotSilent
          rw [Option.some.injEq] at hselected
          rw [not_and, not_not] at hinteractive
          obtain ⟨⟨-, -, -, hverified⟩, -⟩ := hinteractive hnotSilent
          exact .inr ⟨hselected ▸ rfl, hverified⟩

theorem rewriteDormantAccountSignIn_target (hresult : rewriteDormantAccountSignIn platform crypto secret now request
      response current remembered = some result) :
    result = response ∨ ∃ target redirects selected, locationOf platform request response = .target target redirects ∧
      result = redirected platform response selected redirects ∧
      (selected.pathname = target.pathname ∨ (selected.pathname = Text.of "/select-account" ∧
        isVerifiedProviderOAuthQuery crypto target.searchParams secret now = true)) := by
  rw [rewriteDormantAccountSignIn] at hresult
  split at hresult
  · exact .inl (Option.some.inj hresult).symm
  · cases hresult
  · rename_i target redirects hlocation
    split at hresult
    · exact .inl (Option.some.inj hresult).symm
    · rename_i selected hselected
      exact .inr ⟨target, redirects, selected, hlocation, (Option.some.inj hresult).symm,
        accountSelection_path hselected⟩

end selection

section signing

/-- What a verified query satisfies. -/
structure Verified (params : List Param) (now : Timestamp) : Prop where
  oneSignature : (getAll params "sig").length = 1
  expires : ∃ exp, get params "exp" = some exp ∧ (Double.ofText exp).isFinite = true ∧
    ((Double.ofText exp).times 1000).less now.ms = false
  issued : ∃ iat, get params "ba_iat" = some iat ∧ (Double.ofText iat).isFinite = true ∧
    (Double.ofText iat).atMost 0 = false
  increasing : (getAll params "ba_param").Pairwise fun left right => Text.precedes left right = true ∧ left ≠ right
  names : ∀ name, name ∈ getAll params "ba_param" ↔ ∃ param ∈ params, param.name ≠ Text.of "sig" ∧ param.name = name

theorem WellMarked.verified {params : List Param} {now : Timestamp} {signature : Text} (hwell : WellMarked params now)
    (hsig : getAll params "sig" = [signature]) : Verified params now := by
  obtain ⟨hexpires, hissued, hmarkers, hnamed⟩ := hwell
  obtain ⟨exp, hexp⟩ := get_eq_some_of_mem (hnamed "exp" (by simp))
  obtain ⟨iat, hiat⟩ := get_eq_some_of_mem (hnamed "ba_iat" (by simp))
  rw [hexp] at hexpires
  rw [hiat] at hissued
  refine ⟨by rw [hsig, List.length_singleton], ⟨exp, hexp, hexpires⟩, ⟨iat, hiat, hissued⟩, ?_, ?_⟩
  · rw [hmarkers]
    exact pairwise_sortedNames _
  · intro name
    rw [hmarkers, mem_sortedNames_iff]
    simp only [mem_delete_iff, and_assoc]

/-- A query is accepted with one signature, in time, marked with exactly its names and with the
parameters of a query that was signed; its verdict is that of every reordering that keeps the
order of the markers and the first `exp` and `ba_iat`; and a browser is sent to the account selection only for a
target that was accepted. `hunforgeable` and `hinjective` are relied on for the one message
that is compared. -/
theorem isVerifiedProviderOAuthQuery_signed (crypto : AuthCrypto) (secret : Text) (now : Timestamp)
    (Signed : List Param → Prop) (params : List Param)
    (hunforgeable : ∀ signature ∈ getAll params "sig",
      signature = crypto.makeSignature (canonicalizeOAuthQuery (delete params "sig")) secret →
      ∃ query, Signed query ∧ signature = crypto.makeSignature (canonicalizeOAuthQuery query) secret)
    (hinjective : ∀ query, Signed query →
      crypto.makeSignature (canonicalizeOAuthQuery (delete params "sig")) secret =
        crypto.makeSignature (canonicalizeOAuthQuery query) secret →
      canonicalizeOAuthQuery (delete params "sig") = canonicalizeOAuthQuery query) :
    (isVerifiedProviderOAuthQuery crypto params secret now = true →
      Verified params now ∧ ∃ query, Signed query ∧ (delete params "sig").Perm query) ∧
    (∀ reordered, Reordered params reordered →
      isVerifiedProviderOAuthQuery crypto reordered secret now = isVerifiedProviderOAuthQuery crypto params secret now) ∧
    ∀ platform request response current remembered result,
      rewriteDormantAccountSignIn platform crypto secret now request response current remembered = some result →
      result = response ∨ ∃ target redirects selected,
        locationOf platform request response = .target target redirects ∧
        result = redirected platform response selected redirects ∧
        (selected.pathname = target.pathname ∨ (selected.pathname = Text.of "/select-account" ∧
          isVerifiedProviderOAuthQuery crypto target.searchParams secret now = true)) := by
  refine ⟨?_, ?_, ?_⟩
  · intro haccepted
    obtain ⟨hwell, signature, hsig, -, hequal⟩ := isVerifiedProviderOAuthQuery_iff.mp haccepted
    refine ⟨hwell.verified hsig, ?_⟩
    have hpaired : signature.Paired := by
      have hmem : signature ∈ getAll params "sig" := hsig ▸ List.mem_singleton_self signature
      obtain ⟨param, -, rfl⟩ := List.mem_map.mp hmem
      exact param.valuePaired
    rw [crypto.constantTimeEqual_iff hpaired (crypto.makeSignature_paired _ _)] at hequal
    obtain ⟨query, hquery, hissued⟩ := hunforgeable signature (hsig ▸ List.mem_singleton_self signature) hequal
    have hmessage := hinjective query hquery (hequal.symm.trans hissued)
    exact ⟨query, hquery, canonicalizeOAuthQuery_eq_iff.mp hmessage⟩
  · intro reordered horder
    rw [Bool.eq_iff_iff]
    exact ⟨horder.symm.accepted, horder.accepted⟩
  · intro platform request response current remembered result hresult
    exact rewriteDormantAccountSignIn_target hresult

/-- A query that was signed. -/
def unsignedExample : List Param :=
  [param "ba_iat" "1700000000" (by decide), param "ba_param" "ba_iat" (by decide),
    param "ba_param" "ba_param" (by decide), param "ba_param" "exp" (by decide), param "exp" "1700000600" (by decide)]

/-- A comparison by equality and the signature of one message. -/
def signatureExample (signature : String) (hascii : (Text.of signature).Ascii) : AuthCrypto where
  makeSignature _ _ := Text.of signature
  constantTimeEqual left right := left = right
  constantTimeEqual_iff _ _ := decide_eq_true_iff
  makeSignature_paired _ _ := Text.Ascii.paired hascii

theorem signatureExample_equal (signature : String) (hascii : (Text.of signature).Ascii) (message secret : Text) :
    (signatureExample signature hascii).constantTimeEqual (Text.of signature)
      ((signatureExample signature hascii).makeSignature message secret) = true := by
  rw [signatureExample, decide_eq_true_iff]

def signedExample : List Param :=
  param "sig" "pQDKYK7b+cfQRRnZ9hoOBkavrJwRl9Ehw5SJfG/3ZJk=" (by decide) :: unsignedExample

theorem sortedNames_example :
    sortedNames unsignedExample = [Text.of "ba_iat", Text.of "ba_param", Text.of "exp"] := by
  have hnames : (unsignedExample.map Param.name).dedup = [Text.of "ba_iat", Text.of "ba_param", Text.of "exp"] := by
    decide
  rw [sortedNames, hnames]
  exact List.mergeSort_of_pairwise (by decide)

theorem isVerifiedProviderOAuthQuery_signed_example :
    isVerifiedProviderOAuthQuery
        (signatureExample "pQDKYK7b+cfQRRnZ9hoOBkavrJwRl9Ehw5SJfG/3ZJk=" (by decide)) signedExample
        (Text.of "secret") ⟨1700000200000, by decide⟩ = true ∧
      Verified signedExample ⟨1700000200000, by decide⟩ := by
  have hunsigned : delete signedExample "sig" = unsignedExample := by
    decide
  have haccepted : isVerifiedProviderOAuthQuery
      (signatureExample "pQDKYK7b+cfQRRnZ9hoOBkavrJwRl9Ehw5SJfG/3ZJk=" (by decide)) signedExample
      (Text.of "secret") ⟨1700000200000, by decide⟩ = true := by
    rw [isVerifiedProviderOAuthQuery_iff]
    refine ⟨⟨by decide +kernel, by decide +kernel, ?_, ?_⟩,
      Text.of "pQDKYK7b+cfQRRnZ9hoOBkavrJwRl9Ehw5SJfG/3ZJk=", by decide, by decide, ?_⟩
    · rw [hunsigned, sortedNames_example]
      decide
    · rw [hunsigned, sortedNames_example]
      decide
    · exact signatureExample_equal _ _ _ _
  refine ⟨haccepted, ?_⟩
  obtain ⟨hsigned, -⟩ := isVerifiedProviderOAuthQuery_signed
    (signatureExample "pQDKYK7b+cfQRRnZ9hoOBkavrJwRl9Ehw5SJfG/3ZJk=" (by decide)) (Text.of "secret")
    ⟨1700000200000, by decide⟩ (fun query => query = unsignedExample) signedExample
    (fun _ _ hequal => ⟨unsignedExample, rfl, hequal⟩)
    (fun query hquery _ => by rw [hquery, hunsigned])
  exact (hsigned haccepted).1

/-- A signed query with two values of `exp`, the later one first. -/
def doubledExample : List Param :=
  [param "ba_iat" "1" (by decide), param "ba_param" "ba_iat" (by decide), param "ba_param" "ba_param" (by decide),
    param "ba_param" "exp" (by decide), param "exp" "9999999999" (by decide), param "exp" "0" (by decide),
    param "sig" "heCZmVC1s1yQOd6l4jHaPB4YynAh3BjqanZG8GugKwg=" (by decide)]

/-- The same with the two values in the other order. -/
def swappedExample : List Param :=
  [param "ba_iat" "1" (by decide), param "ba_param" "ba_iat" (by decide), param "ba_param" "ba_param" (by decide),
    param "ba_param" "exp" (by decide), param "exp" "0" (by decide), param "exp" "9999999999" (by decide),
    param "sig" "heCZmVC1s1yQOd6l4jHaPB4YynAh3BjqanZG8GugKwg=" (by decide)]

/-- The values of `ba_param` keep their order and the verdict changes: the first `exp` counts. -/
theorem isVerifiedProviderOAuthQuery_reordered :
    doubledExample.Perm swappedExample ∧ getAll doubledExample "ba_param" = getAll swappedExample "ba_param" ∧
    isVerifiedProviderOAuthQuery
      (signatureExample "heCZmVC1s1yQOd6l4jHaPB4YynAh3BjqanZG8GugKwg=" (by decide)) doubledExample
      (Text.of "secret") ⟨1700000200000, by decide⟩ = true ∧
    isVerifiedProviderOAuthQuery
      (signatureExample "heCZmVC1s1yQOd6l4jHaPB4YynAh3BjqanZG8GugKwg=" (by decide)) swappedExample
      (Text.of "secret") ⟨1700000200000, by decide⟩ = false := by
  have hnames : sortedNames (delete doubledExample "sig") = [Text.of "ba_iat", Text.of "ba_param", Text.of "exp"] := by
    have hdistinct : ((delete doubledExample "sig").map Param.name).dedup =
        [Text.of "ba_iat", Text.of "ba_param", Text.of "exp"] := by
      decide
    rw [sortedNames, hdistinct]
    exact List.mergeSort_of_pairwise (by decide)
  refine ⟨by decide, by decide, ?_, ?_⟩
  · rw [isVerifiedProviderOAuthQuery_iff]
    refine ⟨⟨by decide +kernel, by decide +kernel, ?_, ?_⟩,
      Text.of "heCZmVC1s1yQOd6l4jHaPB4YynAh3BjqanZG8GugKwg=", by decide, by decide, ?_⟩
    · rw [hnames]
      decide
    · rw [hnames]
      decide
    · exact signatureExample_equal _ _ _ _
  · rw [Bool.eq_false_iff, ne_eq, isVerifiedProviderOAuthQuery_iff]
    rintro ⟨⟨⟨-, hexpires⟩, -⟩, -⟩
    revert hexpires
    decide +kernel

end signing

end pgid.oauth
