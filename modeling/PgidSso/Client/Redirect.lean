import PgidSso.Client.Edit
import PgidSso.Library.SqlText
import PgidSso.Library.Url

/-! When the checks of the URIs that a client may register imply the constraints of the
tables that keep them: exactly when no URI ends in an empty fragment. -/

namespace pgid.management

/-- What the checks read of a URL record. -/
def readUrl (url : whatwg.Url) : Url where
  href := url.href
  protocol := url.protocol
  username := url.username
  password := url.password
  hash := url.hash
  hostname := url.hostname
  port := url.portText

/-- A platform whose parser follows the standard. -/
def standardRuntime (parser : whatwg.Parser) (environment : Environment) : Runtime where
  environment
  parseUrl value := (parser.parse value).map readUrl

/-- The hosts that may use HTTP outside of production. -/
def loopbackHosts : List Text :=
  [Text.of "localhost", Text.of "127.0.0.1", Text.of "[::1]"]

section accepted

variable {parser : whatwg.Parser} {value : Text} {environment : Environment} {url : whatwg.Url}

/-- A value that is the text of a URL which may be registered but for its fragment. -/
structure Registrable (parser : whatwg.Parser) (environment : Environment) (value : Text) (url : whatwg.Url) : Prop where
  short : value ≠ [] ∧ value.length ≤ REDIRECT_URI_MAX_LENGTH
  wildcard : Text.unit '*' ∉ value
  parsed : parser.parse value = some url
  canonical : url.href = value
  user : url.username = [] ∧ url.password = []
  scheme : url.scheme = Text.of "https" ∨
    (environment ≠ .production ∧ url.scheme = Text.of "http" ∧ url.hostname ∈ loopbackHosts)

theorem hash_eq_nil_iff : url.hash = [] ↔ url.fragment = none ∨ url.fragment = some [] := by
  rw [whatwg.Url.hash]
  cases hfragment : url.fragment with
  | none => simp
  | some fragment =>
    cases fragment with
    | nil => simp
    | cons code rest => simp

theorem protocol_eq_iff (scheme : Text) : url.protocol = scheme ++ Text.of ":" ↔ url.scheme = scheme := by
  rw [whatwg.Url.protocol, List.append_left_inj]

theorem includes_singleton_iff {code : UInt16} : value.includes [code] = true ↔ code ∈ value := by
  rw [Text.includes]
  induction value with
  | nil => simp
  | cons first rest ih =>
    rw [List.tails, List.any_cons, Bool.or_eq_true, ih, List.mem_cons]
    simp [List.isPrefixOf]

theorem validRedirectUri_iff : validRedirectUri (standardRuntime parser environment) value = true ↔
    ∃ url, Registrable parser environment value url ∧ (url.fragment = none ∨ url.fragment = some []) := by
  have hhttps : Text.of "https:" = Text.of "https" ++ Text.of ":" := by decide
  have hhttp : Text.of "http:" = Text.of "http" ++ Text.of ":" := by decide
  rw [validRedirectUri]
  split
  · rename_i hrejected
    simp only [Bool.false_eq_true, false_iff]
    rintro ⟨url, ⟨⟨hne, hshort⟩, hwildcard, -⟩, -⟩
    rw [asterisk, Text.of, show ("*".toList.map Text.unit) = [Text.unit '*'] from rfl, includes_singleton_iff] at hrejected
    obtain hempty | hlong | hstar := hrejected
    · exact hne hempty
    · omega
    · exact hwildcard hstar
  · rename_i hchecked
    rw [asterisk, Text.of, show ("*".toList.map Text.unit) = [Text.unit '*'] from rfl, includes_singleton_iff, not_or,
      not_or, Nat.not_lt] at hchecked
    cases hparse : parser.parse value with
    | none =>
      have hthrown : (standardRuntime parser environment).parseUrl value = none := by
        simp only [standardRuntime, hparse, Option.map_none]
      simp only [hthrown, Bool.false_eq_true, false_iff]
      rintro ⟨url, hregistrable, -⟩
      cases hparse.symm.trans hregistrable.parsed
    | some url =>
      have hread : (standardRuntime parser environment).parseUrl value = some (readUrl url) := by
        simp only [standardRuntime, hparse, Option.map_some]
      simp only [hread, readUrl]
      split
      · rename_i hparts
        simp only [Bool.false_eq_true, false_iff]
        rintro ⟨other, hregistrable, hfragment⟩
        cases hparse.symm.trans hregistrable.parsed
        obtain hhref | husername | hpassword | hhash := hparts
        · exact hhref hregistrable.canonical
        · exact husername hregistrable.user.1
        · exact hpassword hregistrable.user.2
        · exact hhash (hash_eq_nil_iff.mpr hfragment)
      · rename_i hparts
        simp only [not_or, not_not] at hparts
        obtain ⟨hhref, husername, hpassword, hhash⟩ := hparts
        rw [hash_eq_nil_iff] at hhash
        have hregistrable : ∀ hscheme, Registrable parser environment value url := fun hscheme =>
          ⟨⟨hchecked.1, hchecked.2.1⟩, hchecked.2.2, hparse, hhref, ⟨husername, hpassword⟩, hscheme⟩
        have hunique : ∀ other, Registrable parser environment value other → other = url :=
          fun other hother => Option.some.inj (hother.parsed.symm.trans hparse)
        split
        · rename_i hprotocol
          rw [hhttps, protocol_eq_iff] at hprotocol
          simp only [true_iff]
          exact ⟨url, hregistrable (.inl hprotocol), hhash⟩
        · rename_i hprotocol
          rw [hhttps, protocol_eq_iff] at hprotocol
          split
          · rename_i hproduction
            simp only [Bool.false_eq_true, false_iff]
            rintro ⟨other, hother, -⟩
            obtain rfl := hunique other hother
            obtain hsecure | ⟨hloopback, -⟩ := hother.scheme
            · exact hprotocol hsecure
            · exact hloopback hproduction
          · rename_i hproduction
            rw [decide_eq_true_eq, hhttp, protocol_eq_iff]
            constructor
            · rintro ⟨hscheme, hhost⟩
              refine ⟨url, hregistrable (.inr ⟨hproduction, hscheme, ?_⟩), hhash⟩
              simpa [loopbackHosts] using hhost
            · rintro ⟨other, hother, -⟩
              obtain rfl := hunique other hother
              obtain hsecure | ⟨-, hscheme, hhost⟩ := hother.scheme
              · exact absurd hsecure hprotocol
              · exact ⟨hscheme, by simpa [loopbackHosts] using hhost⟩

/-- The text between the slashes of a URI and its path. -/
def rawAuthority (value : Text) : Text :=
  ((value.dropWhile fun code => code ≠ Text.unit ':').drop 3).takeWhile fun code =>
    code ∉ [Text.unit '/', Text.unit '?']

/-- What a registered URI must be. -/
structure Strict (environment : Environment) (value : Text) : Prop where
  wildcard : Text.unit '*' ∉ value
  fragment : Text.unit '#' ∉ value
  user : Text.unit '@' ∉ rawAuthority value
  scheme : Text.of "https://" <+: value ∨ (environment ≠ .production ∧ ∃ host ∈ loopbackHosts,
    Text.of "http://" ++ host ++ Text.of ":" <+: value ∨ Text.of "http://" ++ host ++ Text.of "/" <+: value)

theorem forall_mem_of_all {P : UInt16 → Prop} [DecidablePred P]
    (hall : value.all (fun code => decide (P code)) = true) : ∀ code ∈ value, P code :=
  fun code hcode => of_decide_eq_true (List.all_eq_true.mp hall code hcode)

/-- The text of a registrable URL without a fragment, and the characters of its parts. -/
theorem Registrable.shape (hregistrable : Registrable parser environment value url) (hfragment : url.fragment = none) :
    url.hostname ≠ [] ∧ (∀ code ∈ url.hostname ++ url.portSuffix, whatwg.IsUrlCode code ∧
      code ∉ [Text.unit '/', Text.unit '?', Text.unit '@']) ∧
    ∃ tail, (∀ code ∈ tail, whatwg.IsUrlCode code) ∧
      value = url.scheme ++ (Text.of "://" ++ (url.hostname ++ (url.portSuffix ++ Text.unit '/' :: tail))) := by
  have hweb : url.scheme = Text.of "http" ∨ url.scheme = Text.of "https" :=
    hregistrable.scheme.elim .inr fun hloopback => .inl hloopback.2.1
  have hspecial := parser.special value url hregistrable.parsed hweb
  obtain ⟨host, hhost, hne, hcodes⟩ := hspecial.host
  obtain ⟨tail, htail, hhref⟩ := hspecial.href_eq hregistrable.user.1 hregistrable.user.2 hfragment
  have hname : url.hostname = host := by
    rw [whatwg.Url.hostname, hhost, Option.getD_some]
  refine ⟨hname ▸ hne, ?_, tail, htail, ?_⟩
  · intro code hcode
    rw [List.mem_append, hname] at hcode
    exact hcode.elim (hcodes code) (url.isUrlCode_portSuffix code)
  · rw [← hregistrable.canonical, hhref, whatwg.Url.protocol, List.append_assoc]
    rfl

theorem Registrable.codes (hregistrable : Registrable parser environment value url) (hfragment : url.fragment = none) :
    ∀ code ∈ value, whatwg.IsUrlCode code := by
  obtain ⟨-, hauthority, tail, htail, hvalue⟩ := hregistrable.shape hfragment
  have hscheme : ∀ code ∈ url.scheme, whatwg.IsUrlCode code := by
    obtain hhttps | ⟨-, hhttp, -⟩ := hregistrable.scheme
    · rw [hhttps]
      exact forall_mem_of_all (by decide)
    · rw [hhttp]
      exact forall_mem_of_all (by decide)
  have hslashes : ∀ code ∈ Text.of "://", whatwg.IsUrlCode code :=
    forall_mem_of_all (by decide)
  have hslash : whatwg.IsUrlCode (Text.unit '/') := by
    decide
  intro code hcode
  rw [hvalue] at hcode
  simp only [List.mem_append, List.mem_cons] at hcode
  obtain hcode | hcode | hcode | hcode | rfl | hcode := hcode
  · exact hscheme code hcode
  · exact hslashes code hcode
  · exact (hauthority code (List.mem_append_left _ hcode)).1
  · exact (hauthority code (List.mem_append_right _ hcode)).1
  · exact hslash
  · exact htail code hcode

theorem Registrable.rawAuthority_eq (hregistrable : Registrable parser environment value url)
    (hfragment : url.fragment = none) : rawAuthority value = url.hostname ++ url.portSuffix := by
  obtain ⟨-, hauthority, tail, -, hvalue⟩ := hregistrable.shape hfragment
  have hscheme : ∀ code ∈ url.scheme, decide (code ≠ Text.unit ':') = true := by
    obtain hhttps | ⟨-, hhttp, -⟩ := hregistrable.scheme
    · rw [hhttps]
      exact List.all_eq_true.mp (by decide)
    · rw [hhttp]
      exact List.all_eq_true.mp (by decide)
  have hslashes : (Text.of "://" ++ (url.hostname ++ (url.portSuffix ++ Text.unit '/' :: tail))).dropWhile
      (fun code => code ≠ Text.unit ':') = Text.of "://" ++ (url.hostname ++ (url.portSuffix ++ Text.unit '/' :: tail)) :=
    rfl
  rw [rawAuthority, hvalue, List.dropWhile_append_of_pos hscheme, hslashes,
    show (3 : Nat) = (Text.of "://").length from rfl, List.drop_left, ← List.append_assoc,
    List.takeWhile_append_of_pos]
  · rw [List.takeWhile_cons_of_neg (by decide), List.append_nil]
  · intro code hcode
    have hother := (hauthority code hcode).2
    simp only [List.mem_cons, List.not_mem_nil, or_false, not_or] at hother
    simp [hother.1, hother.2.1]

theorem Registrable.strict (hregistrable : Registrable parser environment value url) (hfragment : url.fragment = none) :
    Strict environment value := by
  obtain ⟨-, hauthority, tail, -, hvalue⟩ := hregistrable.shape hfragment
  refine ⟨hregistrable.wildcard, ?_, ?_, ?_⟩
  · intro hhash
    exact (hregistrable.codes hfragment _ hhash).2.2 rfl
  · rw [hregistrable.rawAuthority_eq hfragment]
    intro hat
    exact (hauthority _ hat).2 (by decide)
  · obtain hhttps | ⟨hproduction, hhttp, hhost⟩ := hregistrable.scheme
    · left
      rw [hvalue, hhttps, ← List.append_assoc]
      exact List.prefix_append _ _
    · refine .inr ⟨hproduction, url.hostname, hhost, ?_⟩
      rw [hvalue, hhttp]
      cases hport : url.port with
      | none =>
        right
        rw [whatwg.Url.portSuffix, hport]
        exact ⟨tail, by simp [Text.of, Text.unit]⟩
      | some port =>
        left
        rw [whatwg.Url.portSuffix, hport]
        exact ⟨Text.decimal port ++ Text.unit '/' :: tail, by simp [Text.of, Text.unit]⟩

theorem plain_of_codes (hcodes : ∀ code ∈ value, whatwg.IsUrlCode code) : sql.Plain value := by
  intro code hcode
  obtain ⟨hlow, hhigh, -⟩ := hcodes code hcode
  rw [UInt16.le_iff_toNat_le] at hlow hhigh
  have hbounds : (0x21 : UInt16).toNat = 33 ∧ (0x7E : UInt16).toNat = 126 ∧ (0x80 : UInt16).toNat = 128 := by
    decide
  constructor
  · rintro rfl
    exact absurd (hbounds.1 ▸ hlow) (by decide)
  · rw [UInt16.lt_iff_toNat_lt]
    omega

/-- The parts of the end of the patterns. -/
def portParts : List sql.GlobPart :=
  [.any, .code (Text.unit '/'), .any]

/-- A port and a path match the end of the patterns. -/
theorem globMatches_port (digits tail : Text) :
    sql.globMatches portParts (digits ++ Text.unit '/' :: tail) = true := by
  apply sql.globMatches_any
  apply sql.globMatches_codes [Text.unit '/']
  rw [← List.append_nil tail]
  exact sql.globMatches_any tail rfl

theorem globParts_localhost : sql.globParts none (Text.of "http://localhost:*/*") =
    some (List.map sql.GlobPart.code (Text.of "http://localhost:") ++ portParts) := by
  decide

theorem globParts_loopback : sql.globParts none (Text.of "http://127.0.0.1:*/*") =
    some (List.map sql.GlobPart.code (Text.of "http://127.0.0.1:") ++ portParts) := by
  decide

theorem globParts_brackets : sql.globParts none (Text.of "http://[[]::1[]]:*/*") =
    some (List.map sql.GlobPart.code (Text.of "http://") ++ sql.GlobPart.set (Text.of "[") ::
      (List.map sql.GlobPart.code (Text.of "::1") ++ sql.GlobPart.set (Text.of "]") ::
        (List.map sql.GlobPart.code (Text.of ":") ++ portParts))) := by
  decide

/-- A URL of a loopback host with a port matches the pattern of the host. -/
theorem glob_of_loopback {host digits tail : Text} (hhost : host ∈ loopbackHosts)
    (hvalue : value = Text.of "http" ++ (Text.of "://" ++ (host ++ (Text.unit ':' :: digits ++ Text.unit '/' :: tail))))
    (hplain : sql.Plain value) :
    sql.glob value (Text.of "http://localhost:*/*") = true ∨ sql.glob value (Text.of "http://127.0.0.1:*/*") = true ∨
      sql.glob value (Text.of "http://[[]::1[]]:*/*") = true := by
  have hend := globMatches_port digits tail
  simp only [loopbackHosts, List.mem_cons, List.not_mem_nil, or_false] at hhost
  obtain rfl | rfl | rfl := hhost
  · left
    rw [sql.glob, globParts_localhost, sql.cString_of_plain hplain, hvalue]
    exact sql.globMatches_codes (Text.of "http://localhost:") hend
  · right
    left
    rw [sql.glob, globParts_loopback, sql.cString_of_plain hplain, hvalue]
    exact sql.globMatches_codes (Text.of "http://127.0.0.1:") hend
  · right
    right
    rw [sql.glob, globParts_brackets, sql.cString_of_plain hplain, hvalue]
    apply sql.globMatches_codes (Text.of "http://")
    apply sql.globMatches_set (by decide)
    apply sql.globMatches_codes (Text.of "::1")
    apply sql.globMatches_set (by decide)
    exact sql.globMatches_codes (Text.of ":") hend

/-- A registrable URL without a fragment and `@`, of HTTPS or with a port, passes the CHECK. -/
theorem Registrable.check (hregistrable : Registrable parser environment value url) (hfragment : url.fragment = none)
    (hat : Text.unit '@' ∉ value) (hsecure : url.scheme = Text.of "https" ∨ url.portText ≠ []) :
    backchannelLogoutUriCheck (some value) = true := by
  obtain ⟨hname, -, tail, -, hvalue⟩ := hregistrable.shape hfragment
  have hcodes := hregistrable.codes hfragment
  have hplain := plain_of_codes hcodes
  have hhash : Text.unit '#' ∉ value := fun hmem => (hcodes _ hmem).2.2 rfl
  have hlong : 9 ≤ value.length := by
    have hhost : 0 < url.hostname.length := List.length_pos_iff.mpr hname
    have hscheme : 4 ≤ url.scheme.length := by
      obtain hhttps | ⟨-, hhttp, -⟩ := hregistrable.scheme
      · rw [hhttps]
        decide
      · rw [hhttp]
        decide
    have hslashes : (Text.of "://").length = 3 := rfl
    rw [hvalue]
    simp only [List.length_append, List.length_cons]
    omega
  have hchars : Text.of "*" = [Text.unit '*'] ∧ Text.of "#" = [Text.unit '#'] ∧ Text.of "@" = [Text.unit '@'] :=
    ⟨rfl, rfl, rfl⟩
  rw [backchannelLogoutUriCheck, decide_eq_true_eq, sql.length_of_plain hplain, sql.substr_of_plain hplain, hchars.1,
    hchars.2.1, hchars.2.2, sql.instr_singleton_eq_zero_iff, sql.instr_singleton_eq_zero_iff,
    sql.instr_singleton_eq_zero_iff]
  refine ⟨⟨hlong, hregistrable.short.2⟩, hregistrable.wildcard, hhash, hat, ?_⟩
  obtain hhttps | ⟨-, hhttp, hhost⟩ := hregistrable.scheme
  · left
    rw [hvalue, hhttps]
    rfl
  · right
    obtain hscheme | hport := hsecure
    · rw [hhttp] at hscheme
      exact absurd hscheme (by decide)
    · cases hfound : url.port with
      | none =>
        rw [whatwg.Url.portText, hfound] at hport
        exact absurd rfl hport
      | some port =>
        rw [hhttp, whatwg.Url.portSuffix, hfound] at hvalue
        exact glob_of_loopback hhost hvalue hplain

theorem validBackchannelLogoutUri_iff : validBackchannelLogoutUri (standardRuntime parser environment) value = true ↔
    Text.unit '@' ∉ value ∧ ∃ url, Registrable parser environment value url ∧
      (url.fragment = none ∨ url.fragment = some []) ∧ (url.scheme = Text.of "https" ∨ url.portText ≠ []) := by
  have hhttps : Text.of "https:" = Text.of "https" ++ Text.of ":" := by decide
  rw [validBackchannelLogoutUri]
  split
  · rename_i hrejected
    simp only [Bool.false_eq_true, false_iff]
    rintro ⟨hat, url, hregistrable, hfragment, -⟩
    rw [Bool.or_eq_true, Bool.not_eq_true', ← Bool.not_eq_true, validRedirectUri_iff, commercialAt,
      show Text.of "@" = [Text.unit '@'] from rfl, includes_singleton_iff] at hrejected
    exact hrejected.elim (· ⟨url, hregistrable, hfragment⟩) hat
  · rename_i haccepted
    rw [Bool.or_eq_true, Bool.not_eq_true', ← Bool.not_eq_true, validRedirectUri_iff, commercialAt,
      show Text.of "@" = [Text.unit '@'] from rfl, includes_singleton_iff, not_or, not_not] at haccepted
    obtain ⟨⟨url, hregistrable, hfragment⟩, hat⟩ := haccepted
    have hread : (standardRuntime parser environment).parseUrl value = some (readUrl url) := by
      simp only [standardRuntime, hregistrable.parsed, Option.map_some]
    simp only [hread, readUrl]
    rw [decide_eq_true_eq, hhttps, protocol_eq_iff]
    constructor
    · exact fun hsecure => ⟨hat, url, hregistrable, hfragment, hsecure⟩
    · rintro ⟨-, other, hother, -, hsecure⟩
      cases hregistrable.parsed.symm.trans hother.parsed
      exact hsecure

/-- An otherwise registrable URL with an empty fragment. -/
def EmptyFragment (parser : whatwg.Parser) (environment : Environment) (value : Text) : Prop :=
  ∃ url, Registrable parser environment value url ∧ url.fragment = some []

theorem hash_mem_of_emptyFragment (hempty : EmptyFragment parser environment value) : Text.unit '#' ∈ value := by
  obtain ⟨url, hregistrable, hfragment⟩ := hempty
  rw [← hregistrable.canonical, whatwg.Url.href, hfragment]
  exact List.mem_append_right _ List.mem_cons_self

/-- The checks imply what a registered URI must be and the constraint of the tables, for every
value but one that ends in an empty fragment. -/
theorem uri_checks_imply_constraints_iff (parser : whatwg.Parser) (environment : Environment) (value : Text) :
    ((validRedirectUri (standardRuntime parser environment) value = true → Strict environment value) ∧
        (validBackchannelLogoutUri (standardRuntime parser environment) value = true →
          backchannelLogoutUriCheck (some value) = true)) ↔
      ¬ EmptyFragment parser environment value := by
  constructor
  · rintro ⟨hredirect, -⟩ hempty
    obtain ⟨url, hregistrable, hfragment⟩ := hempty
    have hstrict := hredirect (validRedirectUri_iff.mpr ⟨url, hregistrable, .inr hfragment⟩)
    exact hstrict.fragment (hash_mem_of_emptyFragment ⟨url, hregistrable, hfragment⟩)
  · intro hnonempty
    constructor
    · rw [validRedirectUri_iff]
      rintro ⟨url, hregistrable, hfragment | hfragment⟩
      · exact hregistrable.strict hfragment
      · exact absurd ⟨url, hregistrable, hfragment⟩ hnonempty
    · rw [validBackchannelLogoutUri_iff]
      rintro ⟨hat, url, hregistrable, hfragment | hfragment, hsecure⟩
      · exact hregistrable.check hfragment hat hsecure
      · exact absurd ⟨url, hregistrable, hfragment⟩ hnonempty

/-- The record of `https://rp.example/logout#`. -/
def emptyFragmentExample : whatwg.Url where
  scheme := Text.of "https"
  username := []
  password := []
  host := some (Text.of "rp.example")
  port := none
  path := .segments [Text.of "logout"]
  query := none
  fragment := some []

/-- A parser that reads this text. -/
def parserExample : whatwg.Parser where
  parse value := if value = Text.of "https://rp.example/logout#" then some emptyFragmentExample else none
  special value url hparse _ := by
    split at hparse
    · cases hparse
      refine ⟨⟨Text.of "rp.example", rfl, by decide, ?_⟩, ⟨Text.of "logout", [], rfl, ?_⟩, ?_⟩
      · exact forall_mem_of_all (by decide)
      · intro segment hsegment
        rw [List.mem_singleton] at hsegment
        exact hsegment ▸ forall_mem_of_all (by decide)
      · rintro query hquery
        cases hquery
    · cases hparse

/-- Both checks accept a URI with `#`, and the constraint of the tables does not. -/
theorem uri_checks_accept_empty_fragment :
    validRedirectUri (standardRuntime parserExample .production) (Text.of "https://rp.example/logout#") = true ∧
    validBackchannelLogoutUri (standardRuntime parserExample .production) (Text.of "https://rp.example/logout#") =
      true ∧
    Text.unit '#' ∈ Text.of "https://rp.example/logout#" ∧
    backchannelLogoutUriCheck (some (Text.of "https://rp.example/logout#")) = false := by
  decide

end accepted

end pgid.management
