import BoostFeed.Proofs.Setup.Layering
import BoostFeed.Watch.Program

/-! Where the push channel of a server lies beside its requests. Requests keep the whole path of the base address, with a
slash put behind it where there is none; the push endpoint is joined to the base as it is, so that the last segment of a
path without a slash is lost to it. All else is shared but the scheme. -/

namespace BoostFeed

namespace Address

variable {k : SchemeKind} {parts : List String} {scheme text : String} {cs : List Char} {a : Address}

theorem addSegments_ne_nil {raw : List (List Char)} (h : raw ≠ []) : addSegments k parts raw ≠ [] := by
  induction raw generalizing parts with
  | nil => exact absurd rfl h
  | cons segment rest ih =>
    cases rest with
    | nil =>
      simp only [addSegments, List.isEmpty_nil, if_true]
      split
      · simp
      · split <;> simp
    | cons next rest =>
      simp only [addSegments, List.isEmpty_cons, Bool.false_eq_true, if_false]
      split
      · exact ih (by simp)
      · split <;> exact ih (by simp)

/-- Segments that name neither a directory itself nor the one above are added one by one. -/
theorem addSegments_of_not_dots {raw : List (List Char)} (hk : k ≠ .file)
    (h : ∀ segment ∈ raw, isDoubleDot segment = false ∧ isSingleDot segment = false) :
    addSegments k parts raw = parts ++ raw.map fun segment => String.ofList (encode .path segment) := by
  induction raw generalizing parts with
  | nil => simp [addSegments]
  | cons segment rest ih =>
    obtain ⟨hdouble, hsingle⟩ := h segment List.mem_cons_self
    rw [addSegments]
    simp only [hdouble, hsingle, hk, Bool.false_eq_true, if_false, false_and]
    rw [ih fun s hs => h s (List.mem_cons_of_mem _ hs)]
    simp

theorem rawSegments_ne_nil : rawSegments k cs ≠ [] := by
  induction cs with
  | nil => simp [rawSegments]
  | cons c cs ih =>
    simp only [rawSegments, List.foldr_cons] at ih ⊢
    split
    · simp
    · simpa using ih

/-- Behind a host a path has segments, be it an empty one. -/
theorem absolutePath_ne_nil (h : k ≠ .other) : absolutePath k cs ≠ [] := by
  cases cs with
  | nil => simp [absolutePath, h]
  | cons c cs =>
    simp only [absolutePath, pathFrom]
    split <;> exact addSegments_ne_nil rawSegments_ne_nil

theorem usualPort_ne_of_portOf {port : Option Nat} (h : portOf scheme cs = .ok port) {p : Nat} (hp : port = some p) :
    usualPort scheme ≠ some p := by
  subst hp
  unfold portOf at h
  split at h
  · cases h
  · split at h
    · split at h
      · split at h
        · cases h
        · next hu => cases h; exact hu
      · cases h
    · cases h

/-- An address of a scheme with a usual port that does not name that port, and has segments behind its host. -/
structure OnServer (a : Address) : Prop where
  path : ∃ parts, a.path = .segments parts ∧ parts ≠ []
  port : ∀ p, a.port = some p → usualPort a.scheme ≠ some p

theorem toOption_eq_some_iff {ε α : Type} {x : Except ε α} {v : α} : x.toOption = some v ↔ x = .ok v := by
  cases x <;> simp [Except.toOption]

theorem authority_ok (h : authority scheme cs = .ok a) :
    a.scheme = scheme ∧ (kindOf scheme ≠ .other → a.OnServer) := by
  unfold authority at h
  simp only at h
  split at h
  · cases h
  · split at h
    all_goals
      obtain ⟨host, -, h⟩ := bind_eq_ok_iff.mp h
      obtain ⟨port, hport, h⟩ := bind_eq_ok_iff.mp h
      cases h
      exact ⟨rfl, fun hk => ⟨⟨_, rfl, absolutePath_ne_nil hk⟩, fun p hp => usualPort_ne_of_portOf hport hp⟩⟩

theorem scheme_file {base : Option Address} (h : file base cs = .ok a) : a.scheme = "file" := by
  unfold file file.relative at h
  simp only [bind, Except.bind, pure, Except.pure] at h
  repeat' split at h
  all_goals cases h <;> rfl

/-- What is read by itself and has a usual port lies on a server. -/
theorem onServer_of_read (h : read text = .ok a) (hk : kindOf a.scheme = .special) : a.OnServer := by
  unfold read readAgainst at h
  simp only at h
  split at h
  · unfold afterScheme at h
    split at h
    · rw [scheme_file h] at hk
      cases hk
    · obtain ⟨rfl, hs⟩ := authority_ok h
      exact hs (by simp [hk])
    · next hother =>
      split at h
      · rw [(authority_ok h).1, hother] at hk
        cases hk
      · cases h
        rw [hother] at hk
        cases hk
  · cases h

theorem shorten_special : shorten .special parts = parts.dropLast := by
  unfold shorten
  split
  · next h => cases h
  · rfl

/-- A path without a slash in front replaces the last segment of the page it stands on. -/
theorem join_relative (hk : kindOf a.scheme = .special) (hp : a.path = .segments parts) :
    a.join "api/v1/ws" =
      .ok { a with path := .segments (parts.dropLast ++ ["api", "v1", "ws"]), query := none, fragment := none } := by
  have hclean : cleaned "api/v1/ws" = "api/v1/ws".toList := by decide +kernel
  have hscheme : scheme? "api/v1/ws".toList = none := by decide +kernel
  have hcut : cutTail "api/v1/ws".toList = ("api/v1/ws".toList, none, none) := by decide +kernel
  have hpath : pathFrom .special parts.dropLast "api/v1/ws".toList = parts.dropLast ++ ["api", "v1", "ws"] := by
    have hraw : rawSegments .special "api/v1/ws".toList = ["api".toList, "v1".toList, "ws".toList] := by decide +kernel
    rw [pathFrom, hraw, addSegments_of_not_dots (by decide) (by decide +kernel)]
    rfl
  have hfile : a.scheme ≠ "file" := by
    intro h
    rw [h] at hk
    cases hk
  have hrelative : relativeTo a parts "api/v1/ws".toList = .ok { a with
      path := .segments (parts.dropLast ++ ["api", "v1", "ws"]), query := none, fragment := none } := by
    unfold relativeTo
    rw [hcut, ← hpath, ← shorten_special, hk]
    rfl
  unfold join readAgainst
  simp only [hclean, hscheme, hp, hfile, if_false]
  exact hrelative

/-- The scheme of the push protocol that goes with a scheme of requests. -/
def pushScheme (scheme : String) : String := if scheme = "https" then "wss" else "ws"

theorem usualPort_pushScheme (h : scheme = "http" ∨ scheme = "https") :
    usualPort (pushScheme scheme) = usualPort scheme := by
  rcases h with rfl | rfl <;> decide

theorem pushAddress_of_join {page : Address} (h : a.join "api/v1/ws" = .ok page)
    (hs : page.scheme = "http" ∨ page.scheme = "https")
    (hport : ∀ p, page.port = some p → usualPort page.scheme ≠ some p) :
    a.pushAddress = .ok { page with scheme := pushScheme page.scheme } := by
  have hkept : page.withScheme (pushScheme page.scheme) = { page with scheme := pushScheme page.scheme } := by
    rw [withScheme, usualPort_pushScheme hs]
    cases hp : page.port with
    | none => rfl
    | some p => rw [Option.filter_some, if_pos (by simpa using hport p hp)]
  rw [← hkept, pushAddress, h]
  rcases hs with hs | hs <;> simp [bind, Except.bind, pure, Except.pure, hs, pushScheme]

theorem withSlash_segments (hp : a.path = .segments parts) :
    a.withSlash = { a with path := .segments (if a.endsInSlash then parts else parts ++ [""]) } := by
  unfold withSlash
  split
  · rw [← hp]
  · rw [hp]

end Address

namespace Watch.Program

open Address

/-- The push endpoint of a server is the page that the client asks for at the same path, in the scheme of the push
protocol, if the base ends in a slash. If it does not, the endpoint lies one directory above that page. -/
theorem push_beside_requests {layer : Layer} {setup : Setup} (h : layer.resolve = .ok setup)
    (hws : setup.wsUrl = none) (hs : setup.baseUrl.scheme = "http" ∨ setup.baseUrl.scheme = "https") :
    ∃ page front,
      (Client.ofAddress setup.baseUrl setup.authToken).address "api/v1/ws" = .ok page ∧
      page.path = .segments (front ++ ["api", "v1", "ws"]) ∧
      pushAddress setup = .ok { page with
        scheme := pushScheme page.scheme
        path := .segments ((if setup.baseUrl.endsInSlash then front else front.dropLast) ++ ["api", "v1", "ws"]) } ∧
      (pushAddress setup = .ok { page with scheme := pushScheme page.scheme } ↔ setup.baseUrl.endsInSlash = true) := by
  obtain ⟨text, -, hread⟩ := (Layer.madeOf_of_resolve h).baseUrl
  have hk : kindOf setup.baseUrl.scheme = .special := by rcases hs with hs | hs <;> rw [hs] <;> decide
  obtain ⟨⟨parts, hpath, hne⟩, hport⟩ := onServer_of_read hread hk
  have hrequest : (Client.ofAddress setup.baseUrl setup.authToken).address "api/v1/ws" = .ok { setup.baseUrl with
      path := .segments ((if setup.baseUrl.endsInSlash then parts.dropLast else parts) ++ ["api", "v1", "ws"])
      query := none, fragment := none } := by
    have hjoin := join_relative (a := setup.baseUrl.withSlash) (by rw [withSlash_segments hpath]; exact hk)
      (by rw [withSlash_segments hpath])
    unfold Client.address Client.ofAddress
    simp only [hjoin]
    rw [withSlash_segments hpath]
    split <;> simp
  have hpush : pushAddress setup = .ok { setup.baseUrl with
      scheme := pushScheme setup.baseUrl.scheme
      path := .segments (parts.dropLast ++ ["api", "v1", "ws"]), query := none, fragment := none } := by
    unfold pushAddress
    rw [hws]
    exact pushAddress_of_join (join_relative hk hpath) hs hport
  refine ⟨_, _, hrequest, rfl, ?_, ?_⟩
  · rw [hpush]
    split <;> rfl
  · rw [hpush]
    split
    · simp [*]
    · have hshort : parts.dropLast ≠ parts := fun heq => by
        have := congrArg List.length heq
        have := List.length_pos_iff.mpr hne
        simp only [List.length_dropLast] at *
        omega
      simp [*]

/-- The built-in setup on the server at an address. -/
def setupAt (baseUrl : Address) : Setup where
  baseUrl
  wsUrl := none
  websocket := false
  view := .boosts
  session := {}
  audio := false
  pollIntervalSecs := 7
  balanceIntervalSecs := 7
  triggerTickMs := 1000
  requestTimeoutSecs := 10
  maxRetries := 3
  authToken := none
  logDir := "./logs"
  logLevel := "info"

theorem push_under_prefix :
    let setup := setupAt {
      scheme := "https", host := some (.domain "node.example"), path := .segments ["helipad", ""] }
    Layer.resolve { baseUrl := some "https://node.example/helipad/" } = .ok setup ∧
    (pushAddress setup).map Address.print = .ok "wss://node.example/helipad/api/v1/ws" ∧
    ∃ page, (Client.ofAddress setup.baseUrl setup.authToken).address "api/v1/ws" = .ok page ∧
      pushAddress setup = .ok { page with scheme := pushScheme page.scheme } := by
  intro setup
  have hresolve : Layer.resolve { baseUrl := some "https://node.example/helipad/" } = .ok setup :=
    toOption_eq_some_iff.mp (by decide +kernel)
  obtain ⟨page, _, hpage, -, -, hpush⟩ := push_beside_requests hresolve rfl (.inr rfl)
  exact ⟨hresolve, toOption_eq_some_iff.mp (by decide +kernel), page, hpage, hpush.mpr (by decide +kernel)⟩

/-- The prefix of a base without a slash is kept in requests and lost to the push channel. -/
theorem push_leaves_prefix :
    let setup := setupAt { scheme := "http", host := some (.domain "node.local"), path := .segments ["helipad"] }
    let page : Address := {
      scheme := "http", host := some (.domain "node.local"), path := .segments ["helipad", "api", "v1", "ws"] }
    Layer.resolve { baseUrl := some "http://node.local/helipad" } = .ok setup ∧
    (Client.ofAddress setup.baseUrl setup.authToken).address "api/v1/ws" = .ok page ∧
    pushAddress setup ≠ .ok { page with scheme := pushScheme page.scheme } ∧
    (pushAddress setup).map Address.print = .ok "ws://node.local/api/v1/ws" := by
  simp only [ne_eq, ← toOption_eq_some_iff]
  decide +kernel

end Watch.Program

end BoostFeed
