import UpsTelemetry.Sink.Basic

/-!
# A sink that records

The plainest host: it keeps the last value of every variable, the committed status and alarms, the
replacements under way, and counts the commits. Filling a replacement that was never opened does
nothing, and committing one commits an empty list.
-/

namespace UpsTelemetry

/-- A host's picture of the UPS. -/
structure Recorder where
  /-- The last value of each variable, one entry per name. -/
  values : List (String × String) := []
  /-- The committed status. -/
  status : List String := []
  /-- The replacement of the status that is under way. -/
  pendingStatus : Option (List String) := none
  /-- The committed alarms. -/
  alarms : List String := []
  /-- The replacement of the alarms that is under way. -/
  pendingAlarms : Option (List String) := none
  /-- Whether the data is old, once this is known. -/
  stale : Option Bool := none
  /-- How often a status was committed. -/
  statusCommits : Nat := 0
  /-- How often alarms were committed. -/
  alarmCommits : Nat := 0
deriving DecidableEq, Repr

namespace Recorder

/-- A host which has been told nothing yet. -/
def empty : Recorder := {}

instance : Inhabited Recorder := ⟨empty⟩

/-- A host which has a committed status and has been told nothing else. -/
def ofStatus (tokens : List String) : Recorder :=
  { status := tokens }

/-- The last value published under a name. -/
def value? (recorder : Recorder) (name : String) : Option String :=
  recorder.values.lookup name

/-- The entries with one name given a new value. A name that is there keeps its place. -/
def assign (name value : String) : List (String × String) → List (String × String)
  | [] => [(name, value)]
  | entry :: rest =>
    if entry.1 = name then (name, value) :: rest else entry :: assign name value rest

/-- The host after one event. -/
def accept (event : SinkEvent) (recorder : Recorder) : Recorder :=
  match event with
  | .set name value => { recorder with values := assign name value recorder.values }
  | .markStale => { recorder with stale := some true }
  | .markFresh => { recorder with stale := some false }
  | .beginAlarms => { recorder with pendingAlarms := some [] }
  | .raiseAlarm name =>
    { recorder with pendingAlarms := recorder.pendingAlarms.map (· ++ [name]) }
  | .commitAlarms =>
    { recorder with
      alarms := recorder.pendingAlarms.getD []
      pendingAlarms := none
      alarmCommits := recorder.alarmCommits + 1 }
  | .beginStatus => { recorder with pendingStatus := some [] }
  | .setStatus token =>
    { recorder with pendingStatus := recorder.pendingStatus.map (· ++ [token]) }
  | .commitStatus =>
    { recorder with
      status := recorder.pendingStatus.getD []
      pendingStatus := none
      statusCommits := recorder.statusCommits + 1 }

instance : TelemetrySink Recorder where
  accept := accept
  hasStatus recorder token := recorder.status.contains token

/-- A variable has the value assigned to it last. -/
theorem lookup_assign (name value : String) (entries : List (String × String)) :
    (assign name value entries).lookup name = some value := by
  induction entries with
  | nil => simp [assign]
  | cons entry rest ih =>
    by_cases same : entry.1 = name
    · simp [assign, same]
    · have other : (name == entry.1) = false := by simpa using Ne.symm same
      obtain ⟨key, old⟩ := entry
      simp only [assign, if_neg same, List.lookup_cons, other, ih]

/-- What was published last under a name is its value. -/
theorem value?_accept_set (name value : String) (recorder : Recorder) :
    (accept (.set name value) recorder).value? name = some value :=
  lookup_assign name value recorder.values

end Recorder

end UpsTelemetry
