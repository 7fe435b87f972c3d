import TokenPlace.Relay.Routes

/-!
# A relay to evaluate

The settings of `relay.py` without environment variables, two compute nodes and a
client, for the concrete schedules that go with the general theorems.
-/

namespace Relay

open Interleaving

/-- SHA-256 of the two credentials that the sample schedules use. -/
def sampleDigest (credential : String) : String :=
  if credential = "credential-a" then
    "f0d56af546cb5007756e49223522c6f7965fa628885f1893e19e91df72cbd215"
  else if credential = "credential-b" then
    "42a07d665e5c60feccd3fdae6865937a03e00f45d1688f4072432b864c7c694a"
  else ""

/-- The default settings. A poll does not wait. -/
def sampleEnv : RelayEnv :=
  { terminalRequestTtlSeconds := 300
    pollWaitSeconds := 0
    leaseSeconds := 30
    inFlightTtlSeconds := 30
    requestDeadlineSeconds := 60
    controlTombstoneTtlSeconds := 60
    controlCredentialDigest := sampleDigest }

/-- A request envelope of a client. -/
def sampleEnvelope (client requestId cancelToken : String) : Envelope :=
  { clientPublicKey := client
    requestId, cancelToken
    ciphertext := "ciphertext"
    cipherkey := "cipherkey"
    iv := "iv" }

/-- The schedule that makes a call and runs its thread, the `i`-th, to the end. -/
def serve (i : Nat) (call : Call) : List RelayEvent := .spawn call :: List.replicate 24 (.run i)

/-- Both clocks move on to the same reading. -/
def tickTo (now : ℚ) : RelayEvent := .environment ⟨now, now⟩

/-- The sample relay after a schedule. -/
def sampleRun (evs : List RelayEvent) : RelaySystem := (relay sampleEnv).runs evs (started 0 0)

theorem sampleRun_reachable (evs : List RelayEvent) : Reachable sampleEnv (sampleRun evs) :=
  ⟨0, 0, evs, rfl⟩

/-- Two nodes register. -/
def sampleNodes : List RelayEvent :=
  serve 0 (.register "node-a" "credential-a") ++ serve 1 (.register "node-b" "credential-b")

end Relay
