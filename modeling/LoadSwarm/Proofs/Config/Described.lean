/-
  What a configuration file says.

  * `Document.Gives`: a value is read from the node that keys lead to, or is a default where they
    lead to none.
  * `Configuration.DescribedBy`: the values that a document gives to all fields.
  * `Configuration.describedBy_of_ofYaml`: a configuration that was read is the one described.
-/
import LoadSwarm.Config.Reader
import LoadSwarm.Proofs.Yaml.Members

namespace LoadSwarm

open Yaml

/-- A value is read from the node that keys lead to; without one it is a default. -/
def Yaml.Document.Gives {α : Type} (d : Document) (keys : List String)
    (read : Place → Node → Reading α) (default a : α) : Prop := d.Entry (d.at? keys) read default a

/-- **The configuration that a document describes**: each field with its keys, how it is read, and
    its value where the document does not give one. -/
structure Configuration.DescribedBy (d : Document) (c : Configuration) : Prop where
  host : d.Gives ["target", "host"] readText "http://localhost:8080" c.target.host
  identifiers : d.Gives ["target", "identifiers"] (readOption (readList readText)) none
    c.target.identifiers
  users : d.Gives ["swarm", "users"] readNat32 1 c.swarm.users
  spawnRate : d.Gives ["swarm", "spawn_rate"] readFloat (Binary64.ofNat 1) c.swarm.spawnRate
  runTime : d.Gives ["swarm", "run_time"] (readOption readSeconds) none c.swarm.runTime
  pacing : d.Gives ["swarm", "pacing"] Pacing.read .none c.swarm.pacing
  seed : d.Gives ["swarm", "seed"] (readOption (readNat64 "u64")) none c.swarm.seed
  timeout : d.Gives ["http", "timeout"] readSeconds (Duration.ofSeconds 30) c.client.timeout
  maxRedirects : d.Gives ["http", "max_redirects"] readNat32 10 c.client.maxRedirects
  userAgent : d.Gives ["http", "user_agent"] readText "clusterload/0.1.0" c.client.userAgent
  verifyCertificates : d.Gives ["http", "verify_ssl"] readBool true c.client.verifyCertificates
  maxIdlePerHost : d.Gives ["http", "connection_pool", "max_idle_per_host"] (readNat64 "usize") 256
    c.client.pool.maxIdlePerHost
  idleTimeout : d.Gives ["http", "connection_pool", "idle_timeout"] readSeconds
    (Duration.ofSeconds 90) c.client.pool.idleTimeout
  connectionTimeout : d.Gives ["http", "connection_pool", "connection_timeout"] readSeconds
    (Duration.ofSeconds 10) c.client.pool.connectionTimeout
  level : d.Gives ["logging", "level"] (readName LogLevel.ofName) .info c.log.level
  format : d.Gives ["logging", "format"] (readName LogFormat.ofName) .text c.log.format
  filter : d.Gives ["logging", "filter"] (readOption readText) none c.log.filter

/-- **A configuration that was read is the one that its text describes.** -/
theorem Configuration.describedBy_of_ofYaml {c : Configuration} {text : String} (h : ofYaml text = .ok c) :
    DescribedBy (Document.ofText text) c := by
  obtain ⟨target, swarm, client, log⟩ := (Document.read_entry h).parts
    [⟨_, _, _, Configuration.target⟩, ⟨_, _, _, Configuration.swarm⟩, ⟨_, _, _, Configuration.client⟩,
      ⟨_, _, _, Configuration.log⟩] {}
  obtain ⟨host, identifiers⟩ := target.parts
    [⟨_, _, _, Target.host⟩, ⟨_, _, _, Target.identifiers⟩] {}
  obtain ⟨users, spawnRate, runTime, pacing, seed⟩ := swarm.parts
    [⟨_, _, _, LoadShape.users⟩, ⟨_, _, _, LoadShape.spawnRate⟩, ⟨_, _, _, LoadShape.runTime⟩,
      ⟨_, _, _, LoadShape.pacing⟩, ⟨_, _, _, LoadShape.seed⟩] {}
  -- only the record is to be opened, not the number in it
  dsimp only at spawnRate
  obtain ⟨timeout, maxRedirects, userAgent, verify, pool⟩ := client.parts
    [⟨_, _, _, ClientOptions.timeout⟩, ⟨_, _, _, ClientOptions.maxRedirects⟩,
      ⟨_, _, _, ClientOptions.userAgent⟩, ⟨_, _, _, ClientOptions.verifyCertificates⟩,
      ⟨_, _, _, ClientOptions.pool⟩] {}
  obtain ⟨maxIdle, idleTimeout, connectionTimeout⟩ := pool.parts
    [⟨_, _, _, ConnectionPool.maxIdlePerHost⟩, ⟨_, _, _, ConnectionPool.idleTimeout⟩,
      ⟨_, _, _, ConnectionPool.connectionTimeout⟩] {}
  obtain ⟨level, format, filter⟩ := log.parts
    [⟨_, _, _, LogOptions.level⟩, ⟨_, _, _, LogOptions.format⟩, ⟨_, _, _, LogOptions.filter⟩] {}
  exact ⟨host, identifiers, users, spawnRate, runTime, pacing, seed, timeout, maxRedirects,
    userAgent, verify, maxIdle, idleTimeout, connectionTimeout, level, format, filter⟩

end LoadSwarm
