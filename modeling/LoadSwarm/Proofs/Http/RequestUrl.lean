/-
  The URLs that a client asks for.

  * `HttpClient.connect_settled`: the path of a base URL that was accepted consists of segments as
    they stand in URLs.
  * `HttpClient.urlFor_eq`: what a path comes to: its segments are added to those of the base URL.
  * `IdentifierUrl`: where the URL of an identifier lies.
  * `urlFor_identifier`: what holds of every accepted identifier.  Without backslashes it is one
    segment below `clusters` unless it is a dot segment, which leads elsewhere;
    `accepted_identifier_divided` is one with a backslash.
-/
import LoadSwarm.Proofs.Config.Validation
import LoadSwarm.Proofs.Url.Path
import LoadSwarm.Users.Identifiers

namespace LoadSwarm

open Url

/-! ## Paths below the base URL -/

/-- A URL that a check accepts is one of the network. -/
theorem Check.url_network {domain field value : String}
    (h : Check.url domain field value = .ok ()) :
    ∃ u, Url.parse value = .ok u ∧ schemeKind u.scheme = .network := by
  obtain ⟨-, h⟩ := Check.bind_eq_ok_iff.1 h
  rcases hu : Url.parse value with reason | u
  · rw [hu] at h; cases h
  · rw [hu] at h
    have hscheme := Check.require_eq_ok_iff.1 h
    rw [Bool.or_eq_true, decide_eq_true_eq, decide_eq_true_eq] at hscheme
    rcases hscheme with hs | hs
    · exact ⟨u, rfl, by rw [hs]; decide⟩
    · exact ⟨u, rfl, by rw [hs]; decide⟩

namespace HttpClient

variable {c : HttpClient} {parts : List (List Char)} {path : String}

/-- A client is bound to the URL that its text was read as. -/
theorem connect_base {base : String} {settings : ClientSettings}
    (h : connect base settings = .ok c) : Url.parse base = .ok c.base := by
  unfold connect at h
  split at h
  · cases h
  next url hurl =>
    split_ifs at h
    cases h; exact hurl

/-- **The base URL of a client for an accepted URL** is one of the network, with segments as they
    stand in URLs. -/
theorem connect_settled {domain field base : String} {settings : ClientSettings}
    (hbase : Check.url domain field base = .ok ()) (h : connect base settings = .ok c) :
    schemeKind c.base.scheme = .network ∧
      ∃ parts, c.base.path = .segments parts ∧ ∀ p ∈ parts, Settled p := by
  obtain ⟨u, hu, hkind⟩ := Check.url_network hbase
  obtain rfl : c.base = u := Except.ok.inj ((connect_base h).symm.trans hu)
  exact ⟨hkind, parse_settled hu hkind⟩

/-- **A path is put below the base URL.**  Its segments are added to those of the base URL that
    remain without slashes at the end. -/
theorem urlFor_eq (hkind : schemeKind c.base.scheme = .network)
    (hpath : c.base.path = .segments parts) (h : ∀ p ∈ parts, Settled p)
    (relative : (Text.startsWith "http://" path || Text.startsWith "https://" path) = false) :
    c.urlFor path = .ok { c.base with path := .segments (pushSegments .network (above parts)
      (splitSegments .network (plainText (path.toList.dropWhile (· = '/'))))) } := by
  unfold urlFor
  rw [relative, if_neg Bool.false_ne_true, joinPath, hpath, trimSlashes_text h]
  unfold withPath
  rw [hpath]
  dsimp only
  rw [hkind, readPath_text (above_settled h)]

end HttpClient

/-! ## Identifiers -/

/-- The segment that identifiers are below. -/
def clusters : List Char := "clusters".toList

theorem settled_clusters : Settled clusters where
  keeps := List.all_eq_true.1 (show clusters.all (keeps pathSet) = true by decide)
  inside c hc := by
    have := List.all_eq_true.1
      (show clusters.all (fun c => !isSlash .network c) = true by decide) c hc
    simpa using this
  notSingle := by decide
  notDouble := by decide

namespace Identifiers

theorem path_relative (id : String) :
    (Text.startsWith "http://" (path id) || Text.startsWith "https://" (path id)) = false := by
  unfold Text.startsWith path
  rw [String.toList_append]
  rfl

theorem path_dropSlashes (id : String) :
    (path id).toList.dropWhile (· = '/') = clusters ++ '/' :: id.toList := by
  unfold path
  rw [String.toList_append]
  rfl

/-- An accepted identifier holds more than white space, and no slash. -/
theorem checkIdentifier_eq_ok_iff {id : String} :
    Target.checkIdentifier id = .ok () ↔ Text.isBlank id = false ∧ '/' ∉ id.toList := by
  unfold Target.checkIdentifier Check.requiredText
  rw [Check.bind_eq_ok_iff, Check.require_eq_ok_iff, Check.require_eq_ok_iff]
  simp

theorem builtIn_accepted : ∀ id ∈ builtIn.toList, Target.checkIdentifier id = .ok () := by
  decide +kernel

/-- **All identifiers of an accepted target are accepted.** -/
theorem ofTarget_accepted {t : Target} (h : t.validate = .ok ()) {id : String}
    (hid : id ∈ (ofTarget t).toList) : Target.checkIdentifier id = .ok () := by
  unfold ofTarget at hid
  rcases hids : t.identifiers with _ | ids
  · rw [hids] at hid
    exact builtIn_accepted id hid
  · rw [hids] at hid
    exact Check.forM_eq_ok_iff.1 ((Target.validate_eq_ok_iff.1 h).2 ids hids).2 id hid

end Identifiers

/-- What is left of a text without tabs and line ends, if there is more than white space in it. -/
theorem plainText_ne_nil {id : String} (h : Text.isBlank id = false) :
    plainText id.toList ≠ [] := by
  intro hnil
  refine absurd h (Bool.not_eq_false _ ▸ List.all_eq_true.2 fun c hc => ?_)
  have hskip : isSkipped c = true := by simpa using List.filter_eq_nil_iff.1 hnil c hc
  simp only [isSkipped, Bool.or_eq_true, decide_eq_true_eq] at hskip
  rcases hskip with (rfl | rfl) | rfl <;> rfl

/-- Where the URL `u` of an identifier lies, if the path of the base URL has the segments
    `parts`. -/
structure IdentifierUrl (base : Url) (parts : List (List Char)) (id : List Char) (u : Url) :
    Prop where
  /-- all but the path is that of the base URL -/
  kept : { u with path := base.path } = base
  /-- the segments of the identifier are added below `clusters` -/
  added : u.path = .segments (pushSegments .network (above parts ++ [clusters])
    (splitSegments .network (plainText id)))
  /-- an identifier without backslashes is one more segment, and no empty one, if it is not dots -/
  stays : '\\' ∉ id → isSingleDot (plainText id) = false → isDoubleDot (plainText id) = false →
    encode pathSet (plainText id) ≠ [] ∧
      u.path = .segments (above parts ++ [clusters, encode pathSet (plainText id)])
  /-- one dot is the place `clusters` itself -/
  place : '\\' ∉ id → isSingleDot (plainText id) = true →
    u.path = .segments (above parts ++ [clusters, []])
  /-- two dots lead out of `clusters` -/
  leaves : '\\' ∉ id → isDoubleDot (plainText id) = true →
    u.path = .segments (above parts ++ [[]])

/-- An accepted identifier, added to the segments of the base URL. -/
theorem identifierUrl (base : Url) (parts : List (List Char)) {id : String}
    (hid : Target.checkIdentifier id = .ok ()) :
    IdentifierUrl base parts id.toList { base with path := .segments (pushSegments .network
      (above parts) (splitSegments .network (plainText (clusters ++ '/' :: id.toList)))) } := by
  obtain ⟨hblank, hslash⟩ := Identifiers.checkIdentifier_eq_ok_iff.1 hid
  have hsplit : splitSegments .network (plainText (clusters ++ '/' :: id.toList)) =
      [clusters] ++ splitSegments .network (plainText id.toList) :=
    splitSegments_append settled_clusters.inside rfl _
  rw [hsplit, pushSegments_append (fun p hp => List.mem_singleton.1 hp ▸ settled_clusters)
    (splitSegments_ne_nil _ _)]
  -- without backslashes the identifier is one segment
  have hone (hback : '\\' ∉ id.toList) :
      splitSegments .network (plainText id.toList) = [plainText id.toList] := by
    refine splitSegments_of_inside fun c hc => ?_
    have hmem := List.mem_of_mem_filter hc
    simp only [isSlash, Bool.or_eq_false_iff, decide_eq_false_iff_not, Bool.and_eq_false_iff]
    exact ⟨fun h => hslash (h ▸ hmem), .inr fun h => hback (h ▸ hmem)⟩
  refine ⟨rfl, rfl, fun hback single double => ⟨encode_ne_nil (plainText_ne_nil hblank), ?_⟩,
    fun hback single => ?_, fun hback double => ?_⟩
  · rw [hone hback, pushSegments, pushSegment_encode single double, List.append_assoc]
    rfl
  · rw [hone hback, pushSegments, pushSegment_single single, List.append_assoc]
    rfl
  · rw [hone hback, pushSegments, pushSegment_double double, List.dropLast_concat]
    rfl

/-- **The URL of an accepted identifier** for a client of an accepted base URL: everything but the
    path is that of the base URL, the identifier is added below `clusters`, and it is exactly one
    more segment if it has no backslash and is no dot segment. -/
theorem urlFor_identifier {domain field base : String} {settings : ClientSettings}
    {client : HttpClient} (hbase : Check.url domain field base = .ok ())
    (hclient : HttpClient.connect base settings = .ok client) {t : Target}
    (ht : t.validate = .ok ()) {id : String} (hid : id ∈ (Identifiers.ofTarget t).toList) :
    ∃ parts u, client.base.path = .segments parts ∧
      client.urlFor (Identifiers.path id) = .ok u ∧
      IdentifierUrl client.base parts id.toList u := by
  obtain ⟨hkind, parts, hpath, hsettled⟩ := HttpClient.connect_settled hbase hclient
  have hurl := HttpClient.urlFor_eq hkind hpath hsettled (Identifiers.path_relative id)
  rw [Identifiers.path_dropSlashes] at hurl
  exact ⟨parts, _, hpath, hurl, identifierUrl _ parts (Identifiers.ofTarget_accepted ht hid)⟩

/-- A client for a service below `/api//` on the same machine. -/
def nestedService : HttpClient where
  base :=
    { scheme := "http".toList
      authority := some ⟨[], [], .six [0, 0, 0, 0, 0, 0, 0, 1], none⟩
      path := .segments ["api".toList, [], []]
      query := some "q".toList
      fragment := none }
  settings := ClientSettings.ofOptions {}

/-- A target there, with one identifier. -/
def nestedTarget (id : String) : Target where
  host := "http://[::1]/api//?q"
  identifiers := some [id]

theorem nestedService_connect :
    HttpClient.connect "http://[::1]/api//?q" (ClientSettings.ofOptions {}) = .ok nestedService := by
  have hparse : Url.parse "http://[::1]/api//?q" = .ok nestedService.base := by decide +kernel
  unfold HttpClient.connect
  rw [hparse]
  rfl

theorem urlFor_identifier_withSpace :
    Check.url "target" "host" "http://[::1]/api//?q" = .ok () ∧
      (nestedTarget "a b").validate = .ok () ∧
      (∃ parts u, nestedService.base.path = .segments parts ∧
        nestedService.urlFor (Identifiers.path "a b") = .ok u ∧
        IdentifierUrl nestedService.base parts "a b".toList u) ∧
      nestedService.urlFor (Identifiers.path "a b") = .ok { nestedService.base with
        path := .segments ["api".toList, clusters, "a%20b".toList] } := by
  have hbase : Check.url "target" "host" "http://[::1]/api//?q" = .ok () := by decide +kernel
  have ht : (nestedTarget "a b").validate = .ok () := by decide +kernel
  exact ⟨hbase, ht, urlFor_identifier hbase nestedService_connect ht (List.mem_singleton_self _),
    by decide +kernel⟩

/-- **An accepted identifier can be more than one segment**: the URL ends a segment at a backslash
    too. -/
theorem accepted_identifier_divided :
    ¬ ∀ (domain field base : String) (settings : ClientSettings) (client : HttpClient) (t : Target)
      (id : String), Check.url domain field base = .ok () →
      HttpClient.connect base settings = .ok client → t.validate = .ok () →
      id ∈ (Identifiers.ofTarget t).toList →
      ∃ parts s u, client.base.path = .segments parts ∧
        client.urlFor (Identifiers.path id) = .ok u ∧ { u with path := client.base.path } = client.base ∧
        u.path = .segments (above parts ++ [clusters, s]) ∧ s ≠ [] := by
  intro h
  obtain ⟨parts, s, u, hparts, hu, -, hpath, -⟩ := h "target" "host" "http://[::1]/api//?q" _
    nestedService (nestedTarget "a\\b") "a\\b" (by decide +kernel) nestedService_connect
    (by decide +kernel) (List.mem_singleton_self _)
  have hurl : nestedService.urlFor (Identifiers.path "a\\b") = .ok { nestedService.base with
      path := .segments ["api".toList, clusters, ['a'], ['b']] } := by decide +kernel
  obtain rfl : u = _ := Except.ok.inj (hu.symm.trans hurl)
  obtain rfl : _ = parts := Path.segments.inj hparts
  have hsegments : ["api".toList, clusters, ['a'], ['b']] = ["api".toList, clusters, s] :=
    Path.segments.inj hpath
  exact absurd (congrArg List.length hsegments) (show 4 ≠ 3 by decide)

end LoadSwarm
