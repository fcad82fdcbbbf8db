import SandboxWatch.Watch.Loop

/-!
# SandboxWatch.Watch.Timeline

What the loop of one kind does in the course of time, when it is known how the server answers.

* `Script`   — the answers of the server, each used for one request; a request beyond them is never
  answered.
* `timeline` — the requests of the loop, the events and the errors, each with its time.

Times are in milliseconds.
-/

namespace SandboxWatch

inductive Reply (β : Type) where
  | never
  | error (delay : Nat)
  | answer (delay : Nat) (body : β)

/-- The lines of a watch, each with the time since the one before it. -/
structure LineStream (α : Type) where
  lines : List (Nat × Line α) := []
  /-- Whether the stream ends after its last line. -/
  closes : Bool := false

structure Script (α : Type) where
  lists : List (Reply (Page α)) := []
  watches : List (Reply (LineStream α)) := []

inductive Occurrence (α : Type) where
  | listRequest (token : Option String)
  | watchRequest (version : String)
  | event (e : WatchEvent α)
  | error

def retryDelay : Nat := 800

inductive StreamEnd where
  | silence
  /-- The changes after a version are asked for again. -/
  | resume (time : Nat) (version : String)
  /-- Everything is listed anew. -/
  | relist (time : Nat)

variable {α : Type} [Resource α]

/-- Reads lines. The loop reads on from the time `free`; the line before was sent at `sent`. -/
def readLines (closes : Bool) (version : String) (free sent : Nat) :
    List (Nat × Line α) → List (Nat × Occurrence α) × StreamEnd
  | [] => ([], if closes then .resume (max free sent) version else .silence)
  | (delay, line) :: rest =>
    let sent := sent + delay
    let time := max free sent
    match line.effect with
    | .event e version =>
      let (later, ending) := readLines closes version time sent rest
      ((time, .event e) :: later, ending)
    | .moved version => readLines closes version time sent rest
    | .error =>
      let (later, ending) := readLines closes version (time + retryDelay) sent rest
      ((time, .error) :: later, ending)
    | .relist => ([(time, .error)], .relist (time + retryDelay))

def timeline (time : Nat) : Phase α → List (Reply (Page α)) → List (Reply (LineStream α)) →
    List (Nat × Occurrence α)
  | .listing token _, [], _ => [(time, .listRequest token)]
  | .listing token _, .never :: _, _ => [(time, .listRequest token)]
  | .listing token _, .error delay :: lists, watches =>
    (time, .listRequest token) :: (time + delay, .error) ::
      timeline (time + delay + retryDelay) .start lists watches
  | .listing token read, .answer delay page :: lists, watches =>
    (time, .listRequest token) ::
      match page.effect read with
      | .more next => timeline (time + delay) next lists watches
      | .complete objects version =>
        (time + delay, .event (.restarted objects)) ::
          timeline (time + delay) (.watching version) lists watches
      | .unversioned =>
        (time + delay, .error) :: timeline (time + delay + retryDelay) .start lists watches
  | .watching version, _, [] => [(time, .watchRequest version)]
  | .watching version, _, .never :: _ => [(time, .watchRequest version)]
  | .watching version, lists, .error delay :: watches =>
    (time, .watchRequest version) :: (time + delay, .error) ::
      timeline (time + delay + retryDelay) (.watching version) lists watches
  | .watching version, lists, .answer delay stream :: watches =>
    let (read, ending) :=
      readLines stream.closes version (time + delay) (time + delay) stream.lines
    (time, .watchRequest version) :: read ++
      match ending with
      | .silence => []
      | .resume time version => timeline time (.watching version) lists watches
      | .relist time => timeline time .start lists watches
termination_by _ lists watches => lists.length + watches.length

end SandboxWatch
