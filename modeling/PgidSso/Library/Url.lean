import PgidSso.Library.JsonText

/-! URL records, the texts that write them, and what is relied on of a parser. -/

namespace whatwg

inductive Path where
  | single (segment : Text)
  | segments (segments : List Text)

/-- A URL record. -/
structure Url where
  scheme : Text
  username : Text
  password : Text
  host : Option Text
  port : Option Nat
  path : Path
  query : Option Text
  fragment : Option Text

/-- `url.port`. -/
def Url.portText (url : Url) : Text :=
  match url.port with
  | none => []
  | some port => Text.decimal port

/-- `url.hostname`. -/
def Url.hostname (url : Url) : Text :=
  url.host.getD []

/-- `url.hash`. -/
def Url.hash (url : Url) : Text :=
  match url.fragment with
  | none | some [] => []
  | some fragment => Text.unit '#' :: fragment

/-- `url.protocol`. -/
def Url.protocol (url : Url) : Text :=
  url.scheme ++ Text.of ":"

/-- The user and the password before a host. -/
def Url.credentials (url : Url) : Text :=
  if url.username = [] ∧ url.password = [] then []
  else
    url.username ++ (if url.password = [] then [] else Text.unit ':' :: url.password) ++ Text.of "@"

/-- The text of a port after its colon. -/
def Url.portSuffix (url : Url) : Text :=
  match url.port with
  | none => []
  | some port => Text.unit ':' :: Text.decimal port

/-- What follows the colon of the scheme, up to the path. -/
def Url.authority (url : Url) : Text :=
  match url.host with
  | some host =>
    Text.of "//" ++ url.credentials ++ host ++ url.portSuffix
  | none =>
    match url.path with
    | .segments ([] :: _ :: _) => Text.of "/."
    | _ => []

/-- `url.pathname`. -/
def Url.pathname (url : Url) : Text :=
  match url.path with
  | .single segment => segment
  | .segments segments => segments.flatMap fun segment => Text.unit '/' :: segment

/-- `url.href`. -/
def Url.href (url : Url) : Text :=
  url.protocol ++ url.authority ++ url.pathname ++
    (match url.query with
    | none => []
    | some query => Text.unit '?' :: query) ++
    match url.fragment with
    | none => []
    | some fragment => Text.unit '#' :: fragment

/-- A printable ASCII character but `#`. -/
def IsUrlCode (code : UInt16) : Prop :=
  0x21 ≤ code ∧ code ≤ 0x7E ∧ code ≠ Text.unit '#'

instance (code : UInt16) : Decidable (IsUrlCode code) :=
  inferInstanceAs (Decidable (_ ∧ _ ∧ _))

/-- A parsed URL of the scheme `http` or `https`: it has a host and a path, and what the
standard escapes in its parts is not in them. -/
structure Url.Special (url : Url) : Prop where
  host : ∃ host, url.host = some host ∧ host ≠ [] ∧
    ∀ code ∈ host, IsUrlCode code ∧ code ∉ [Text.unit '/', Text.unit '?', Text.unit '@']
  path : ∃ first segments, url.path = .segments (first :: segments) ∧
    ∀ segment ∈ first :: segments, ∀ code ∈ segment, IsUrlCode code
  query : ∀ query, url.query = some query → ∀ code ∈ query, IsUrlCode code

/-- `new URL(value)`; `none` throws. -/
structure Parser where
  parse : Text → Option Url
  special : ∀ value url, parse value = some url → url.scheme = Text.of "http" ∨ url.scheme = Text.of "https" →
    url.Special

section href

variable {url : Url}

theorem isUrlCode_decimal (value : Nat) : ∀ code ∈ Text.decimal value, IsUrlCode code ∧
    code ∉ [Text.unit '/', Text.unit '?', Text.unit '@'] := by
  intro code hcode
  have hdigit := json.decimal_digits value code hcode
  rw [json.isDigit, decide_eq_true_eq, UInt16.le_iff_toNat_le, UInt16.le_iff_toNat_le] at hdigit
  have hbounds : (Text.unit '0').toNat = 48 ∧ (Text.unit '9').toNat = 57 := by decide
  have hother : ∀ char : UInt16, ¬ (48 ≤ char.toNat ∧ char.toNat ≤ 57) → code ≠ char := by
    rintro char hchar rfl
    omega
  refine ⟨⟨?_, ?_, hother _ (by decide)⟩, ?_⟩
  · rw [UInt16.le_iff_toNat_le]
    exact Nat.le_trans (by decide) (hbounds.1 ▸ hdigit.1)
  · rw [UInt16.le_iff_toNat_le]
    exact Nat.le_trans (hbounds.2 ▸ hdigit.2) (by decide)
  · simp only [List.mem_cons, List.not_mem_nil, or_false, not_or]
    exact ⟨hother _ (by decide), hother _ (by decide), hother _ (by decide)⟩

/-- The text of a parsed URL without a user and a fragment. -/
theorem Url.Special.href_eq (hspecial : url.Special) (husername : url.username = []) (hpassword : url.password = [])
    (hfragment : url.fragment = none) :
    ∃ tail, (∀ code ∈ tail, IsUrlCode code) ∧
      url.href = url.protocol ++ (Text.of "//" ++ (url.hostname ++ (url.portSuffix ++ Text.unit '/' :: tail))) := by
  obtain ⟨host, hhost, -, -⟩ := hspecial.host
  obtain ⟨first, segments, hpath, hsegments⟩ := hspecial.path
  refine ⟨first ++ (segments.flatMap fun segment => Text.unit '/' :: segment) ++
    (match url.query with
    | none => []
    | some query => Text.unit '?' :: query), ?_, ?_⟩
  · intro code hcode
    rw [List.mem_append, List.mem_append, List.mem_flatMap] at hcode
    obtain (hfirst | ⟨segment, hsegment, hmem⟩) | hquery := hcode
    · exact hsegments first List.mem_cons_self code hfirst
    · rw [List.mem_cons] at hmem
      obtain rfl | hmem := hmem
      · decide
      · exact hsegments segment (List.mem_cons_of_mem first hsegment) code hmem
    · cases hfound : url.query with
      | none =>
        rw [hfound] at hquery
        cases hquery
      | some query =>
        rw [hfound, List.mem_cons] at hquery
        obtain rfl | hmem := hquery
        · decide
        · exact hspecial.query query hfound code hmem
  · have hcredentials : url.credentials = [] := by
      rw [Url.credentials, if_pos ⟨husername, hpassword⟩]
    have hpathname : url.pathname = Text.unit '/' :: (first ++ segments.flatMap fun segment => Text.unit '/' :: segment) := by
      rw [Url.pathname, hpath]
      rfl
    have hauthority : url.authority = Text.of "//" ++ (url.hostname ++ url.portSuffix) := by
      rw [Url.authority, hhost, Url.hostname, hhost, Url.portSuffix]
      simp only [hcredentials, List.append_nil, List.append_assoc, Option.getD_some]
    rw [Url.href, hfragment, hauthority, hpathname]
    simp only [List.append_assoc, List.cons_append, List.append_nil]

theorem Url.isUrlCode_portSuffix (url : Url) : ∀ code ∈ url.portSuffix, IsUrlCode code ∧
    code ∉ [Text.unit '/', Text.unit '?', Text.unit '@'] := by
  intro code hcode
  rw [Url.portSuffix] at hcode
  cases hport : url.port with
  | none =>
    rw [hport] at hcode
    cases hcode
  | some port =>
    rw [hport, List.mem_cons] at hcode
    obtain rfl | hdigit := hcode
    · decide
    · exact isUrlCode_decimal port code hdigit

end href

end whatwg
