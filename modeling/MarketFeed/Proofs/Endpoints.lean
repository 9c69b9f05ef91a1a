import Mathlib.Data.List.DropRight
import MarketFeed.Config.Basic
import MarketFeed.Proofs.Addresses
import MarketFeed.Proofs.Forms

/-!
The endpoint of a feed. It is the address of the server with another scheme, a longer path and no query
but the token, and that is what it is read as; what the token is made of changes nothing else.
-/

namespace MarketFeed

namespace Url

/-- The address of a feed for that of a server, but for the query. -/
structure IsFeedOf (feed server : Url) : Prop where
  plain : server.scheme = .http ∨ server.scheme = .ws → feed.scheme = .ws
  secure : server.scheme = .https ∨ server.scheme = .wss → feed.scheme = .wss
  user : feed.user = server.user
  password : feed.password = server.password
  host : feed.host = server.host
  port : feed.effectivePort = server.effectivePort
  path : feed.pathText = server.pathText.rdropWhile (· = '/') ++ "/connect".toList
  fragment : feed.fragment = server.fragment

/-- What a query has to be to carry a token, or none. -/
def IsTokenQuery : (token : Option String) → (query : Option (List Char)) → Prop
  | none, query => query = none
  | some t, query => ∃ q, query = some q ∧ '&' ∉ q ∧ formPairs? q = some [("auth", t)]

theorem IsTokenQuery.unique {token other : Option String} {query : Option (List Char)}
    (h : IsTokenQuery token query) (ho : IsTokenQuery other query) : token = other := by
  cases token with
  | none =>
    cases other with
    | none => rfl
    | some o =>
      obtain ⟨q, hq, -⟩ := ho
      cases h.symm.trans hq
  | some t =>
    obtain ⟨q, rfl, -, hpairs⟩ := h
    cases other with
    | none => cases ho
    | some o =>
      obtain ⟨r, hr, -, hother⟩ := ho
      cases hr
      cases hpairs.symm.trans hother
      rfl

/-- Empty segments at the end of a path are slashes at the end of its text. -/
theorem pathText_trimSegments {path : List (List Char)} (h : ∀ s ∈ path, '/' ∉ s) :
    (trimSegments path).flatMap (fun s => '/' :: s) =
      (path.flatMap fun s => '/' :: s).rdropWhile (· = '/') := by
  induction path using List.reverseRecOn with
  | nil => rfl
  | append_singleton path s ih =>
    have hpath : ∀ s ∈ path, '/' ∉ s := fun t ht => h t (List.mem_append_left _ ht)
    have hs : '/' ∉ s := h s (List.mem_append_right _ (List.mem_singleton_self s))
    change ((path ++ [s]).rdropWhile (· = [])).flatMap _ = _
    rw [List.flatMap_append, List.flatMap_singleton]
    rcases List.eq_nil_or_concat s with rfl | ⟨t, c, rfl⟩
    · rw [List.rdropWhile_concat_pos _ _ _ (by decide), List.rdropWhile_concat_pos _ _ _ (by decide)]
      exact ih hpath
    · have hc : c ≠ '/' := fun he => hs (by simp [he])
      rw [List.rdropWhile_concat_neg _ _ _ (by simp), List.flatMap_append, List.flatMap_singleton,
        List.concat_eq_append, ← List.cons_append, ← List.append_assoc,
        List.rdropWhile_concat_neg _ _ _ (by simpa using hc)]

lemma effectivePort_withScheme {u : Url} {k : Scheme} (h : k.defaultPort = u.scheme.defaultPort) :
    (u.withScheme k).effectivePort = u.effectivePort := by
  unfold withScheme effectivePort
  split
  next hport => rw [hport, Option.getD_none, Option.getD_some]
  next => rw [h]

/-- A form value needs no further encoding in a query. -/
theorem isKept_inQuery_of_isFormChar {c : Char} (h : isFormChar c = true) : isKept inQuery c = true :=
  forall_ascii (p := fun c => isFormChar c = true → isKept inQuery c = true) (by decide +kernel)
    (toNat_lt_of_isFormChar h) h

lemma isSegment_connect : IsSegment "connect".toList where
  encoded := by
    change ∀ c ∈ "connect".toList, isKept inPath c = true
    exact List.all_iff_forall_prop.mp (by decide)
  noSlash := by decide
  noBackslash := by decide
  noDot := by decide
  noDotDot := by decide

lemma isPath_connect {path : List (List Char)} (h : IsPath path) :
    IsPath (trimSegments path ++ ["connect".toList]) where
  ne_nil := List.append_ne_nil_of_right_ne_nil _ (List.cons_ne_nil _ _)
  segments := fun s hs => by
    rcases List.mem_append.mp hs with hs | hs
    · exact h.segments s ((List.rdropWhile_prefix _ path).subset hs)
    · rw [List.mem_singleton.mp hs]
      exact isSegment_connect

lemma pathText_connect {u : Url} (h : u.IsSound) :
    { u with path := trimSegments u.path ++ ["connect".toList] }.pathText =
      u.pathText.rdropWhile (· = '/') ++ "/connect".toList := by
  have htrim := pathText_trimSegments fun s hs => (h.path.segments s hs).noSlash
  rw [pathText, List.flatMap_append, List.flatMap_singleton, htrim]
  rfl

/-- The path is the one that is read if its text is carried on. -/
theorem readPath_connect {u : Url} (h : u.IsSound) :
    readPath (u.pathText.rdropWhile (· = '/') ++ "/connect".toList) =
      trimSegments u.path ++ ["connect".toList] := by
  rw [← pathText_connect h]
  exact readPath_text (isPath_connect h.path)

lemma port_withScheme {u : Url} {k : Scheme} {p : Nat} (h : (u.withScheme k).port = some p) :
    u.port = some p ∧ p ≠ k.defaultPort := by
  unfold withScheme at h
  dsimp only at h
  split at h
  · cases h
  next hne => exact ⟨h, fun hp => hne (hp ▸ h)⟩

end Url

namespace Config

open Url

lemma defaultPort_feedScheme (k : Scheme) : (feedScheme k).defaultPort = k.defaultPort := by
  cases k <;> rfl

/-- The address that an accepted one was made from. -/
theorem exists_server {c : Config} {base : Url} (h : c.baseEndpoint = .ok base) :
    ∃ server, Url.read c.url.toList = .ok (.web server) ∧
      base = { server.withScheme (feedScheme server.scheme) with
        path := trimSegments server.path ++ ["connect".toList]
        query := none } := by
  unfold baseEndpoint at h
  split at h
  · cases h
  · cases h
  next server hread =>
    cases h
    exact ⟨server, hread, rfl⟩

lemma exists_base_of_read {c : Config} {server : Url} (h : Url.read c.url.toList = .ok (.web server)) :
    ∃ base, c.baseEndpoint = .ok base := by
  rw [baseEndpoint, h]
  exact ⟨_, rfl⟩

lemma endpoint_of_error {c : Config} {fault : EndpointFault} (h : c.baseEndpoint = .error fault)
    (token : Option String) : c.endpoint token = .error fault := by
  rw [endpoint, h]

section Accepted

variable {c : Config} {base : Url} {token : Option String}

/-- The query of a feed's address. -/
def tokenQuery (token : Option String) : Option (List Char) :=
  token.map fun t => "auth=".toList ++ formEncode t.toList

lemma isTokenQuery_tokenQuery (token : Option String) : IsTokenQuery token (tokenQuery token) := by
  cases token with
  | none => rfl
  | some t =>
    have hname : ∀ c ∈ "auth".toList, inForm c = true := List.all_iff_forall_prop.mp (by decide)
    refine ⟨_, rfl, fun hin => ?_, formPairs?_single hname t⟩
    rcases List.mem_append.mp hin with hin | hin
    · exact absurd hin (by decide)
    · exact absurd (isFormChar_formEncode _ _ hin) (by decide)

lemma isEncoded_tokenQuery {q : List Char} (h : tokenQuery token = some q) : IsEncoded inQuery q := by
  obtain ⟨t, -, rfl⟩ := Option.map_eq_some_iff.mp h
  intro c hc
  rcases List.mem_append.mp hc with hc | hc
  · have hall : ∀ c ∈ "auth=".toList, isKept inQuery c = true :=
      List.all_iff_forall_prop.mp (by decide)
    exact hall c hc
  · exact isKept_inQuery_of_isFormChar (isFormChar_formEncode _ c hc)

theorem isSound_feed (h : c.baseEndpoint = .ok base) :
    { base with query := tokenQuery token }.IsSound := by
  obtain ⟨server, hread, rfl⟩ := exists_server h
  have hserver := IsSound.of_read hread
  exact {
    user := hserver.user
    password := hserver.password
    host := hserver.host
    port := fun p hp => by
      obtain ⟨hport, hne⟩ := port_withScheme hp
      exact ⟨(hserver.port p hport).1, hne⟩
    path := isPath_connect hserver.path
    query := fun q hq => isEncoded_tokenQuery hq
    fragment := hserver.fragment }

lemma exists_isFeedOf (h : c.baseEndpoint = .ok base) :
    ∃ server, Url.read c.url.toList = .ok (.web server) ∧
      ∀ query, { base with query }.IsFeedOf server := by
  obtain ⟨server, hread, rfl⟩ := exists_server h
  refine ⟨server, hread, fun query => ?_⟩
  exact {
    plain := by rintro (hk | hk) <;> exact congrArg feedScheme hk
    secure := by rintro (hk | hk) <;> exact congrArg feedScheme hk
    user := rfl
    password := rfl
    host := rfl
    port := effectivePort_withScheme (defaultPort_feedScheme server.scheme)
    path := pathText_connect (.of_read hread)
    fragment := rfl }

theorem exists_endpoint (h : c.baseEndpoint = .ok base) (token : Option String) :
    ∃ text, c.endpoint token = .ok text ∧
      Url.read text.toList = .ok (.web { base with query := tokenQuery token }) := by
  rw [endpoint, h]
  refine ⟨_, rfl, ?_⟩
  rw [String.toList_ofList]
  exact (isSound_feed h).read_text

/-- Different tokens give different endpoints. -/
theorem endpoint_injective (h : c.baseEndpoint = .ok base) {other : Option String}
    (heq : c.endpoint token = c.endpoint other) : token = other := by
  obtain ⟨text, htext, hread⟩ := exists_endpoint h token
  obtain ⟨text', htext', hread'⟩ := exists_endpoint h other
  cases (htext.symm.trans heq).trans htext'
  have hquery : tokenQuery token = tokenQuery other :=
    congrArg Url.query (Parsed.web.inj (Except.ok.inj (hread.symm.trans hread')))
  exact (isTokenQuery_tokenQuery token).unique (hquery ▸ isTokenQuery_tokenQuery other)

end Accepted

/-- The endpoint of a feed is read as the address of the server, but for the scheme, which stays as secure
as it was, the path, which goes on to `connect`, and the query, which is the token alone. Settings that
pass the checks have one, and so has every address of a web server; whether there is one does not depend
on the token. -/
theorem endpoints_derived (c : Config) :
    (c.isValid = true → ∃ base, c.baseEndpoint = .ok base) ∧
    (∀ server, Url.read c.url.toList = .ok (.web server) → ∃ base, c.baseEndpoint = .ok base) ∧
    (∀ fault, c.baseEndpoint = .error fault → ∀ token, c.endpoint token = .error fault) ∧
    ∀ base, c.baseEndpoint = .ok base →
      ∃ server, Url.read c.url.toList = .ok (.web server) ∧
        (∀ token, ∃ text feed, c.endpoint token = .ok text ∧
          Url.read text.toList = .ok (.web feed) ∧ feed.IsFeedOf server ∧
          IsTokenQuery token feed.query ∧ feed = { base with query := feed.query }) ∧
        ∀ token other, c.endpoint token = c.endpoint other → token = other := by
  refine ⟨exists_base_of_isValid, fun server => exists_base_of_read, fun fault => endpoint_of_error,
    fun base h => ?_⟩
  obtain ⟨server, hread, hfeed⟩ := exists_isFeedOf h
  refine ⟨server, hread, fun token => ?_, fun token other => endpoint_injective h⟩
  obtain ⟨text, htext, hback⟩ := exists_endpoint h token
  exact ⟨text, _, htext, hback, hfeed _, isTokenQuery_tokenQuery token, rfl⟩

theorem endpoints_derived_loopback :
    (ofUrl "https://me:x@[::1]:443/feed//?old=1#end").isValid = true ∧
      ∃ text feed, (ofUrl "https://me:x@[::1]:443/feed//?old=1#end").endpoint (some "a&b c") = .ok text ∧
        Url.read text.toList = .ok (.web feed) ∧ IsTokenQuery (some "a&b c") feed.query := by
  have hvalid : (ofUrl "https://me:x@[::1]:443/feed//?old=1#end").isValid = true := by decide +kernel
  have hderived := endpoints_derived (ofUrl "https://me:x@[::1]:443/feed//?old=1#end")
  obtain ⟨base, hbase⟩ := hderived.1 hvalid
  obtain ⟨server, -, htokens, -⟩ := hderived.2.2.2 base hbase
  obtain ⟨text, feed, htext, hfeed, -, hquery, -⟩ := htokens (some "a&b c")
  exact ⟨hvalid, text, feed, htext, hfeed, hquery⟩

example : (ofUrl "https://me:x@[::1]:443/feed//?old=1#end").endpoint (some "a&b c") =
    .ok "wss://me:x@[::1]/feed/connect?auth=a%26b+c#end" := by
  decide +kernel

end Config

end MarketFeed
