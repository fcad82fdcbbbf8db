import SandboxWatch.Cluster.Object
import SandboxWatch.Json.Reader

/-!
# SandboxWatch.Cluster.Wire

Objects as the API server writes them. A member that is missing or null is absent, one that is not
known is passed over, and one of another type spoils the whole object. Where members of one name
follow each other, each has to be of its type, and the last one counts.
-/

namespace SandboxWatch

open Json Json.Reader

def Metadata.reader : Reader Metadata := object {} fun m name =>
  match name with
  | "name" => return { m with name := ← nullable text }
  | "namespace" => return { m with ns := ← nullable text }
  | "resourceVersion" => return { m with version := ← nullable text }
  | "labels" => return { m with labels := ← nullable (mapOf text) }
  | _ => do
    skip
    return m

def Instant.reader : Reader Instant := typed fun v => v.string?.bind read?

/-! ## Pods -/

def Waiting.reader : Reader Waiting := object {} fun w name =>
  match name with
  | "reason" => return { w with reason := ← nullable text }
  | "message" => return { w with message := ← nullable text }
  | _ => do
    skip
    return w

def Terminated.reader : Reader Terminated := object {} fun t name =>
  match name with
  | "reason" => return { t with reason := ← nullable text }
  | "message" => return { t with message := ← nullable text }
  | "exitCode" | "signal" => do
    let _ ← nullable int32
    return t
  | "containerID" => do
    let _ ← nullable text
    return t
  | "startedAt" | "finishedAt" => do
    let _ ← nullable Instant.reader
    return t
  | _ => do
    skip
    return t

/-- A running container says when it started; only that it runs is kept. -/
def runningState : Reader Unit := object () fun _ name =>
  match name with
  | "startedAt" => do
    let _ ← nullable Instant.reader
    return ()
  | _ => skip

def ContainerState.reader : Reader ContainerState := object {} fun s name =>
  match name with
  | "running" => return { s with running := (← nullable runningState).isSome }
  | "waiting" => return { s with waiting := ← nullable Waiting.reader }
  | "terminated" => return { s with terminated := ← nullable Terminated.reader }
  | _ => do
    skip
    return s

def Container.reader : Reader Container := object {} fun c name =>
  match name with
  | "name" => return { c with name := (← nullable text).getD "" }
  | "ready" => return { c with ready := (← nullable bool).getD false }
  | "restartCount" => return { c with restartCount := (← nullable int32).getD 0 }
  | "state" => return { c with state := ← nullable ContainerState.reader }
  | "lastState" => do
    let _ ← nullable ContainerState.reader
    return c
  | _ => do
    skip
    return c

def PodStatus.reader : Reader PodStatus := object {} fun s name =>
  match name with
  | "phase" => return { s with phase := ← nullable text }
  | "initContainerStatuses" =>
    return { s with initContainers := ← nullable (listOf Container.reader) }
  | "containerStatuses" => return { s with containers := ← nullable (listOf Container.reader) }
  | _ => do
    skip
    return s

def Pod.reader : Reader Pod := object {} fun p name =>
  match name with
  | "apiVersion" => do
    exactly "v1"
    return p
  | "kind" => do
    exactly "Pod"
    return p
  | "metadata" => return { p with metadata := (← nullable Metadata.reader).getD {} }
  | "spec" => do
    let _ ← nullable anyObject
    return p
  | "status" => return { p with status := ← nullable PodStatus.reader }
  | _ => do
    skip
    return p

/-! ## Events -/

def ObjectReference.reader : Reader ObjectReference := object {} fun r name =>
  match name with
  | "kind" => return { r with kind := ← nullable text }
  | "namespace" => return { r with ns := ← nullable text }
  | "name" => return { r with name := ← nullable text }
  | "fieldPath" => return { r with fieldPath := ← nullable text }
  | _ => do
    skip
    return r

def Event.reader : Reader Event := object {} fun e name =>
  match name with
  | "apiVersion" => do
    exactly "v1"
    return e
  | "kind" => do
    exactly "Event"
    return e
  | "metadata" => return { e with metadata := (← nullable Metadata.reader).getD {} }
  | "involvedObject" => return { e with involved := (← nullable ObjectReference.reader).getD {} }
  | "reason" => return { e with reason := ← nullable text }
  | "type" | "message" => do
    let _ ← nullable text
    return e
  | "count" => do
    let _ ← nullable int32
    return e
  | "lastTimestamp" => return { e with lastTimestamp := ← nullable Instant.reader }
  | "eventTime" => return { e with eventTime := ← nullable Instant.reader }
  | "firstTimestamp" => return { e with firstTimestamp := ← nullable Instant.reader }
  | _ => do
    skip
    return e

/-! ## Namespaces -/

/-- The phase in a namespace's status. -/
def namespacePhase : Reader (Option String) := object none fun phase name =>
  match name with
  | "phase" => nullable text
  | _ => do
    skip
    return phase

def Namespace.reader : Reader Namespace := object {} fun n name =>
  match name with
  | "apiVersion" => do
    exactly "v1"
    return n
  | "kind" => do
    exactly "Namespace"
    return n
  | "metadata" => return { n with metadata := (← nullable Metadata.reader).getD {} }
  | "spec" => do
    let _ ← nullable anyObject
    return n
  | "status" => return { n with phase := (← nullable namespacePhase).getD none }
  | _ => do
    skip
    return n

end SandboxWatch
