import SandboxWatch.Main
import SandboxWatch.Monitor.Metrics
import SandboxWatch.Watch.Rehearsal
import SandboxWatch.Proofs.Cache.Contents
import SandboxWatch.Proofs.Cache.Agreement
import SandboxWatch.Proofs.Cache.History
import SandboxWatch.Proofs.Cache.Refusal
import SandboxWatch.Proofs.Cache.IndexKeys
import SandboxWatch.Proofs.Cache.Visibility
import SandboxWatch.Proofs.Cache.Selection
import SandboxWatch.Proofs.Status.Answer
import SandboxWatch.Proofs.Status.Decision
import SandboxWatch.Proofs.Status.Pulls
import SandboxWatch.Proofs.Status.Slots
import SandboxWatch.Proofs.Status.ServiceNames
import SandboxWatch.Proofs.Status.Started
import SandboxWatch.Proofs.Status.TableLines
import SandboxWatch.Proofs.Status.WireForm
import SandboxWatch.Proofs.Registry.Actions
import SandboxWatch.Proofs.Registry.Journal
import SandboxWatch.Proofs.Registry.Effects
import SandboxWatch.Proofs.Registry.Registrations
import SandboxWatch.Proofs.Registry.Coalescing
import SandboxWatch.Proofs.Registry.Overlap
import SandboxWatch.Proofs.Registry.Stopping
import SandboxWatch.Proofs.Registry.Removals
import SandboxWatch.Proofs.Monitor.Interleaving
import SandboxWatch.Proofs.Monitor.Wakeups
import SandboxWatch.Proofs.Monitor.Announcements
import SandboxWatch.Proofs.Monitor.Isolation
import SandboxWatch.Proofs.Monitor.Startup
import SandboxWatch.Proofs.Monitor.Listing
import SandboxWatch.Proofs.Monitor.Counts
import SandboxWatch.Proofs.Monitor.Loops
import SandboxWatch.Proofs.Monitor.Refusals
import SandboxWatch.Proofs.CommandLine.Arrangement
import SandboxWatch.Proofs.CommandLine.Spelling
