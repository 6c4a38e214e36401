import Workday.Proofs.Client.Endpoint

/-!
# Where requests are sent

Below a plain base URL the feed can be requested: the endpoint can be read, it names a host that may
stand in a request, and it is not too long for one.
-/

set_option autoImplicit false

namespace Workday

namespace Url

variable {s : String} {u : Url}

/-- No host is read that has no name. An address is no name, and a name without characters is refused.
-/
theorem Host.read_ne_unnamed (text : List Char) : Host.read text ≠ .ok (.domain "") := by
  intro h
  unfold Host.read at h
  split at h
  · unfold Host.readBracketed at h
    split at h
    · obtain ⟨pieces, -, hhost⟩ := exists_of_bind (f := fun p => .ok (Host.ipv6 p)) h
      cases hhost
    · cases h
  · split at h
    · cases h
    · cases h
    · rename_i name hname _
      split at h
      · obtain ⟨address, -, hhost⟩ := exists_of_bind (f := fun a => .ok (Host.ipv4 a)) h
        cases hhost
      · have hempty : String.ofList name = "" := by
          injection h with h
          injection h
        exact hname (String.ofList_eq_empty_iff.mp hempty)

/-- A URL of the web names a host. -/
theorem hasHost_of_read (hu : read s = .ok u) (hweb : IsWeb u.scheme) : u.hasHost = true := by
  obtain ⟨_, authority, path, tail, a, -, -, -, hread, hparts, -⟩ := exists_parts hu hweb
  obtain ⟨_, host, _, -, -, -, hhost, -⟩ := parts_of_readAuthority hweb.isSpecial hread
  have hnamed : a.host ≠ .domain "" := by
    intro hunnamed
    rw [hunnamed] at hhost
    exact Host.read_ne_unnamed host hhost
  rw [hparts]
  unfold hasHost compose
  split
  · rename_i hnone
    cases hnone
  · rename_i hunnamed
    exact absurd (Option.some.inj hunnamed) hnamed
  · rfl

/-- A path of segments is written segment by segment. -/
theorem format_append (xs ys : List String) :
    (Path.segments (xs ++ ys)).format = (Path.segments xs).format ++ (Path.segments ys).format := by
  rw [← String.toList_inj, String.toList_append, toList_format, toList_format, toList_format,
    written_append]

end Url

namespace Client

open Url (blankEnd)

variable {s : String} {u : Url}

/-- A base URL that is plain: http, a host that may stand in a request, a port and a path, and nothing
else. With the path of the feed it is still no longer than a request allows. -/
structure IsPlain (s : String) (u : Url) : Prop where
  read : Url.read s = .ok u
  scheme : u.scheme = "http"
  host : u.host.all isRequestableHost = true
  username : u.username = ""
  password : u.password = ""
  query : u.query = none
  fragment : u.fragment = none
  noBlanks : blankEnd s.toList = []
  short : u.format.utf8ByteSize + feedPath.utf8ByteSize ≤ maxUrlLength

/-- What is below a URL is longer by what it has below. -/
theorem size_format_le {names : List String} {k : Nat} (added : String)
    (hpath : u.path = .segments (names ++ List.replicate k "")) (hhost : u.host.isSome = true) :
    ({ u with path := .segments (names ++ [added]) } : Url).format.utf8ByteSize ≤
      u.format.utf8ByteSize + ("/" ++ added).utf8ByteSize := by
  obtain ⟨host, hsome⟩ := Option.isSome_iff_exists.mp hhost
  have hadded : (Url.Path.segments [added]).format = "/" ++ added := by
    simp [Url.Path.format]
  simp only [Url.format, Url.formatAuthority, Url.formatUserInfo, hsome, hpath, Url.format_append,
    hadded, String.utf8ByteSize_append]
  omega

/-- What is requested of a URL without user information is the URL. -/
theorem requestUrl_eq_self (husername : u.username = "") (hpassword : u.password = "") :
    requestUrl u = u := by
  have hreadable : isReadableInfo "" = true := by decide
  simp [requestUrl, husername, hpassword, hreadable]

/-- A URL of the web can be asked for, if its host can be written and it is not too long. -/
theorem isRequestable_of_http (hscheme : u.scheme = "http")
    (hhost : u.host.all isRequestableHost = true) (hsize : u.format.utf8ByteSize ≤ maxUrlLength) :
    isRequestable u = true := by
  unfold isRequestable
  rw [decide_eq_true hsize, hhost, hscheme]
  rfl

/-- An endpoint that is read as a URL with a host is asked for, as far as it can be. -/
theorem target_of_read {endpoint : String} (hread : Url.read endpoint = .ok u)
    (hhost : u.hasHost = true) (h : isRequestable (requestUrl u) = true) :
    target endpoint = .ok (requestUrl u) := by
  simp only [target, hread, hhost, h, Bool.not_true, Bool.false_eq_true, if_false]

/-- The feed below a plain base URL can be requested: it has the host of the base, and it is longer than
the base by no more than the path of the feed. -/
theorem IsPlain.exists_target (h : IsPlain s u) : ∃ t, target (withoutSlashes s ++ feedPath) = .ok t := by
  have hweb : Url.IsWeb u.scheme := Or.inl h.scheme
  have hhost : u.hasHost = true := Url.hasHost_of_read h.read hweb
  have hsome : u.host.isSome = true := by
    cases hnone : u.host with
    | none => simp [Url.hasHost, hnone] at hhost
    | some host => rfl
  obtain ⟨directory, k, hpath, hname⟩ :=
    exists_directory_of_read h.read hweb h.query h.fragment h.noBlanks
  have hread := hname feedName feedName_plain (by decide)
  rw [← feedPath_eq, feedName_encoded] at hread
  have hsize := size_format_le feedName hpath hsome
  rw [← feedPath_eq] at hsize
  let below : Url := { u with path := .segments (directory ++ [feedName]) }
  have hsame : requestUrl below = below := requestUrl_eq_self h.username h.password
  refine ⟨below, hsame ▸ target_of_read hread hhost ?_⟩
  rw [hsame]
  exact isRequestable_of_http h.scheme h.host (Nat.le_trans hsize h.short)

end Client

end Workday
