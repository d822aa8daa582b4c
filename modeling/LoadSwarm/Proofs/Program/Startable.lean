/-
  Configurations that are accepted, and the parts of a run that read them again.

  * `HttpClient.connect_accepted`: an accepted host is a base URL for a client, so only a name that
    does not fit into a header can be refused.
  * `accepted_start`: when client and filter of an accepted configuration are made, and how they are
    refused otherwise.  `accepted_start_refused` are configurations that are accepted and refused.
-/
import LoadSwarm.Proofs.Http.RequestUrl
import LoadSwarm.Proofs.Log.Filter

namespace LoadSwarm

/-- **A client for an accepted host** fails only by its name. -/
theorem HttpClient.connect_accepted {domain field base : String} (settings : ClientSettings)
    (hbase : Check.url domain field base = .ok ()) :
    ∃ url, Url.parse base = .ok url ∧ connect base settings =
      if fitsHeader settings.userAgent then .ok ⟨url, settings⟩
      else .error (.badConfig "builder error") := by
  obtain ⟨url, hurl, hkind⟩ := Check.url_network hbase
  obtain ⟨parts, hpath, -⟩ := Url.parse_settled hurl hkind
  have hresolves : url.isOpaque = false := by unfold Url.isOpaque; rw [hpath]
  refine ⟨url, hurl, ?_⟩
  unfold connect
  rw [hurl]
  dsimp only
  rw [hresolves, if_neg Bool.false_ne_true]

/-- **Starting a run of an accepted configuration.**  There is a client for its host exactly if the
    name of the client fits into a header.  There is a filter exactly if all directives that are
    configured can be read, whatever the environment says; else the first one that cannot is named, as
    it is written. -/
theorem accepted_start (patterns : PatternReader) {c : Configuration} (h : c.validate = .ok ()) :
    (∃ url, Url.parse c.target.host = .ok url ∧
      HttpClient.connect c.target.host (ClientSettings.ofOptions c.client) =
        if HttpClient.fitsHeader c.client.userAgent then
          .ok ⟨url, ClientSettings.ofOptions c.client⟩
        else .error (.badConfig "builder error")) ∧
    ∀ env, ((∃ f, LogFilter.ofTexts patterns c.log none env = .ok f) ↔
        ∀ p ∈ LogFilter.configured c.log, LogFilter.IsDirective patterns p) ∧
      ∀ e, LogFilter.ofTexts patterns c.log none env = .error e →
        ∃ front part rest cause, LogFilter.configured c.log = front ++ part :: rest ∧
          (∀ p ∈ front, LogFilter.IsDirective patterns p) ∧
          Directive.parse patterns (Text.trim part) = .error cause ∧ e = .directive part cause := by
  have hhost := (Target.validate_eq_ok_iff.1 (Check.bind_eq_ok_iff.1 h).1).1
  exact ⟨HttpClient.connect_accepted _ hhost,
    fun _ => ⟨LogFilter.ofTexts_eq_ok_iff, fun _ => LogFilter.exists_of_ofTexts_eq_error⟩⟩

/-- A service of the same machine, a client with a name and some directives. -/
def namedClient (name filter : String) : Configuration where
  target := { host := "http://[::1]", identifiers := some ["a"] }
  client := { userAgent := name }
  log := { filter := some filter }

/-- Warnings of a library, and all of a run whose number is written in digits. -/
def numberedRun : String := "hyper=warn, [run\x7bid=\\d+\x7d]"

theorem accepted_start_twoDirectives :
    (namedClient "load" numberedRun).validate = .ok () ∧
      (∃ client, HttpClient.connect "http://[::1]"
        (ClientSettings.ofOptions (namedClient "load" numberedRun).client) = .ok client) ∧
      ∃ f, LogFilter.ofTexts Pattern.reader (namedClient "load" numberedRun).log none (some "trace") =
        .ok f := by
  have h : (namedClient "load" numberedRun).validate = .ok () := by decide +kernel
  obtain ⟨⟨url, -, hclient⟩, hfilter⟩ := accepted_start Pattern.reader h
  have hparts : LogFilter.configured (namedClient "load" numberedRun).log =
      ["hyper=warn", " [run\x7bid=\\d+\x7d]"] := by decide +kernel
  refine ⟨h, ⟨_, hclient.trans (if_pos (by decide +kernel))⟩, (hfilter (some "trace")).1.2 ?_⟩
  rw [hparts]
  exact List.forall_mem_cons.2 ⟨⟨{ target := some "hyper", threshold := ⟨2⟩ }, by decide +kernel⟩,
    List.forall_mem_singleton.2
      ⟨{ span := some "run", fields := [("id", true)] }, by decide +kernel⟩⟩

/-- **Accepted configurations are refused**: for a name with a line end, and for a directive with an
    unknown level. -/
theorem accepted_start_refused :
    (¬ ∀ c : Configuration, c.validate = .ok () →
      ∃ client, HttpClient.connect c.target.host (ClientSettings.ofOptions c.client) = .ok client) ∧
    ∀ patterns, ¬ ∀ c : Configuration, c.validate = .ok () →
      ∀ env, ∃ f, LogFilter.ofTexts patterns c.log none env = .ok f := by
  constructor
  · intro h
    obtain ⟨client, hclient⟩ := h (namedClient "a\nb" "warn") (by decide +kernel)
    obtain ⟨url, -, hconnect⟩ := HttpClient.connect_accepted
      (ClientSettings.ofOptions (namedClient "a\nb" "warn").client)
      (show Check.url "target" "host" "http://[::1]" = .ok () by decide +kernel)
    rw [if_neg (by decide +kernel)] at hconnect
    cases hclient.symm.trans hconnect
  · intro patterns h
    obtain ⟨f, hf⟩ := h (namedClient "load" "clusterload=loudest") (by decide +kernel) none
    have hparts : LogFilter.configured (namedClient "load" "clusterload=loudest").log =
        ["clusterload=loudest"] := by decide +kernel
    obtain ⟨d, hd⟩ := LogFilter.ofTexts_eq_ok_iff.1 ⟨f, hf⟩ "clusterload=loudest" (by simp [hparts])
    rw [Directive.parse_eq_of_notMem (by decide +kernel) patterns Pattern.reader] at hd
    have hnone : Directive.parse Pattern.reader (Text.trim "clusterload=loudest") = .error .badLevel := by
      decide +kernel
    cases hnone.symm.trans hd

end LoadSwarm
