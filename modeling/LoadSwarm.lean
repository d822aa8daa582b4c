import LoadSwarm.Main
import LoadSwarm.Proofs.Config.Replaced
import LoadSwarm.Proofs.Config.RoundTrip
import LoadSwarm.Proofs.Config.Words
import LoadSwarm.Proofs.Http.AppendedPath
import LoadSwarm.Proofs.Program.Seeded
import LoadSwarm.Proofs.Program.Startable
import LoadSwarm.Proofs.Stats.Interrupted
import LoadSwarm.Proofs.Stats.Bucket
import LoadSwarm.Proofs.Swarm.Pace
import LoadSwarm.Proofs.Swarm.Progress
import LoadSwarm.Proofs.Swarm.SingleUse
import LoadSwarm.Proofs.Swarm.Spawning
import LoadSwarm.Proofs.Swarm.Summary
import LoadSwarm.Proofs.Swarm.Wait
import LoadSwarm.Users.Session
import LoadSwarm.Proofs.Config.Parts
import LoadSwarm.Proofs.Program.Loading
import LoadSwarm.Proofs.Config.Sample
import LoadSwarm.Proofs.Users.Steps
import LoadSwarm.Proofs.Files.Tree
import LoadSwarm.Proofs.Program.Generate
