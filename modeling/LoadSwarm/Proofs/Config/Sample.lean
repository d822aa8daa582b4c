/-
  The sample configuration.

  * `Url.parse_localhost`: its target is a URL of the network.
  * `Configuration.sample_validate`: it is valid.
  * `Configuration.sample_read`: its text is read back as itself.
-/
import LoadSwarm.Proofs.Config.Parts
import LoadSwarm.Proofs.Config.RoundTrip
import LoadSwarm.Proofs.Text.Normal

namespace LoadSwarm

open Yaml

/-! ## The target -/

namespace Url

theorem domainToAscii_localhost : domainToAscii "localhost".toList = some "localhost".toList := by
  have hmap : mapHost "localhost".toList = some "localhost".toList := by decide +kernel
  have hnormal : Text.normalize "localhost".toList = "localhost".toList :=
    Text.normalize_ascii (by simp)
  unfold domainToAscii
  rw [hmap, Option.bind_eq_bind, Option.bind_some, hnormal]
  decide +kernel

theorem readSpecialHost_localhost :
    readSpecialHost "localhost".toList = .ok (.name "localhost".toList) := by
  have hdecode : utf8Chars? (decode "localhost".toList) = some "localhost".toList := by
    decide +kernel
  unfold readSpecialHost
  rw [hdecode, Option.bind_some, domainToAscii_localhost]
  decide +kernel

theorem readAuthority_localhost (followed : Bool) :
    readAuthority "http".toList .network followed "localhost:8080".toList =
      .ok ⟨[], [], .name "localhost".toList, some 8080⟩ := by
  have htake : takeHost false "localhost:8080".toList = ("localhost".toList, ":8080".toList) := by
    decide +kernel
  have hport : readHostPort "http".toList .network "localhost:8080".toList =
      .ok (.name "localhost".toList, some 8080) := by
    unfold readHostPort
    rw [htake]
    dsimp only
    rw [if_pos (show SchemeKind.network.isSpecial = true from rfl), if_neg (by decide),
      readSpecialHost_localhost]
    decide +kernel
  have huser : splitLast '@' "localhost:8080".toList = none := by decide +kernel
  unfold readAuthority
  rw [huser]
  dsimp only
  rw [hport]; rfl

/-- The target of the sample is a URL of the network. -/
theorem parse_localhost : ∃ u, parse "http://localhost:8080" = .ok u ∧ u.scheme = "http".toList := by
  have hscheme : readScheme? (cleanInput "http://localhost:8080".toList) =
      some ("http".toList, "//localhost:8080".toList) := by decide +kernel
  have hkind : schemeKind "http".toList = .network := by decide
  have hrest : "//localhost:8080".toList.dropWhile (isSlash .network) = "localhost:8080".toList := by
    decide +kernel
  have hauthority : "localhost:8080".toList.takeWhile (!endsAuthority .network ·) =
      "localhost:8080".toList := by decide +kernel
  unfold parse parseChars
  rw [hscheme]
  dsimp only
  rw [hkind]
  dsimp only
  rw [hrest]
  unfold readAfterSlashes
  dsimp only
  rw [hauthority, readAuthority_localhost]
  exact ⟨_, rfl, rfl⟩

end Url

/-! ## The sample -/

namespace Configuration

/-- **The sample is valid.** -/
theorem sample_validate : sample.validate = .ok () := by
  have hurl : Check.url "target" "host" "http://localhost:8080" = .ok () := by
    obtain ⟨u, hu, hscheme⟩ := Url.parse_localhost
    unfold Check.url
    rw [hu]
    dsimp only
    rw [hscheme]
    decide +kernel
  have htarget : sample.target.validate = .ok () := by
    show Check.url "target" "host" "http://localhost:8080" >>= _ = _
    rw [hurl]; rfl
  unfold validate
  rw [htarget]
  decide +kernel

/-- **The text of the sample is read back as the sample.** -/
theorem sample_read : ofYaml sample.yaml = .ok sample := by
  have hchars : (Document.ofChars (Value.memberLines 0 sample.members)).Shows
      (.record sample.members) := by decide +kernel
  have hshows : (Document.ofText sample.yaml).Shows (.record sample.members) :=
    Document.ofText_renderRecord sample.members ▸ hchars
  exact (roundTrip sample hshows).same
    ⟨fun d hd => by cases hd; exact Duration.isWhole_ofSeconds 60, by decide, by decide, by decide⟩

end Configuration

end LoadSwarm
