import UpsTelemetry.Proofs.Driver.Session

/-!
# What is asked of a UPS

An operation asks one thing or nothing, and what it asks is a matter of three tables. They are
written out here as they are sent, so that a statement about the bytes of a request does not rest on
the definitions that the driver builds it from; each table is then proved to be what the driver has.

* `Command.table`: the frames of the protocol by their codes. `PollState.table`: the code that each
  state of the poll cycle asks by. `InstantCommand.table`: the commands by their names, and the
  payloads that they are sent as.
* `InstantCommand.ofName?_eq_some_iff`: which names stand for which command.
* `Operation.Asks`: the code and the payload that an operation asks by. `Operation.asks_iff`: the
  driver asks just so.
-/

namespace UpsTelemetry

/-- A list of all values, each with its result, has exactly the results. -/
theorem mem_map_iff_of_complete {α β : Type} {all : List α} (complete : ∀ value, value ∈ all)
    {f : α → β} {value : α} {result : β} :
    (value, result) ∈ all.map (fun value => (value, f value)) ↔ f value = result := by
  rw [List.mem_map]
  constructor
  · rintro ⟨other, -, same⟩
    cases same
    rfl
  · rintro rfl
    exact ⟨value, complete value, rfl⟩

/-! ## Frames -/

namespace Command

/-- The frames of the protocol, with their codes: `2A`, and two digits that tell them apart. -/
def table : List (Command × Bytes) :=
  [(readAnalog, [0x32, 0x41, 0x34, 0x32]), (readOnOff, [0x32, 0x41, 0x34, 0x33]),
    (readWarnings, [0x32, 0x41, 0x34, 0x34]), (remoteControl, [0x32, 0x41, 0x34, 0x35]),
    (readParameters, [0x32, 0x41, 0x34, 0x37]), (writeParameters, [0x32, 0x41, 0x34, 0x39]),
    (readProtocolVersion, [0x32, 0x41, 0x34, 0x46]), (readAddress, [0x32, 0x41, 0x35, 0x30]),
    (readVendorInfo, [0x32, 0x41, 0x35, 0x31]), (readVendorVersion, [0x32, 0x41, 0x38, 0x30]),
    (readFirmwareVersion, [0x32, 0x41, 0x45, 0x35]),
    (readParallelAnalog, [0x32, 0x41, 0x45, 0x36])]

/-- Every frame is in the table once, with the code that the driver has for it. -/
theorem table_eq_map : table = all.map fun command => (command, command.code) := by decide

/-- The list of frames is complete. -/
theorem mem_all (command : Command) : command ∈ all := by
  cases command <;> decide

/-- The table has the code of a frame, and no other for it. -/
theorem mem_table_iff {command : Command} {code : Bytes} :
    (command, code) ∈ table ↔ command.code = code := by
  rw [table_eq_map]
  exact mem_map_iff_of_complete mem_all

end Command

/-! ## States -/

namespace PollState

/-- The states of the poll cycle, with the codes that they ask by. -/
def table : List (PollState × Bytes) :=
  [(onOff, [0x32, 0x41, 0x34, 0x33]), (analog, [0x32, 0x41, 0x34, 0x32]),
    (warning, [0x32, 0x41, 0x34, 0x34]), (parameters, [0x32, 0x41, 0x34, 0x37])]

/-- Every state is in the table once, with the code of the frame that the driver asks for. -/
theorem table_eq_map :
    table = [onOff, analog, warning, parameters].map fun state => (state, state.command.code) := by
  decide

/-- The table has the code that a state asks by, and no other for it. -/
theorem mem_table_iff {state : PollState} {code : Bytes} :
    (state, code) ∈ table ↔ state.command.code = code := by
  rw [table_eq_map]
  apply mem_map_iff_of_complete
  intro state
  cases state <;> decide

end PollState

/-! ## Commands -/

namespace InstantCommand

/-- The commands, with their names and the payloads that they are sent as. -/
def table : List (InstantCommand × String × Bytes) :=
  [(startBatteryTest, "test.battery.start", [0x31, 0x30, 0x30, 0x32]),
    (stopBatteryTest, "test.battery.stop", [0x31, 0x30, 0x30, 0x33]),
    (loadOn, "load.on", [0x32, 0x30, 0x30, 0x31]),
    (loadOff, "load.off", [0x32, 0x30, 0x30, 0x33])]

/-- Every command is in the table once, with the name and the payload that the driver has. -/
theorem table_eq_map :
    table = all.map fun command => (command, command.name, command.payload) := by
  decide

/-- The list of commands is complete. -/
theorem mem_all (command : InstantCommand) : command ∈ all := by
  cases command <;> decide

/-- The table has the name and the payload of a command, and no others for it. -/
theorem mem_table_iff {command : InstantCommand} {word : String} {payload : Bytes} :
    (command, word, payload) ∈ table ↔ command.name = word ∧ command.payload = payload := by
  rw [table_eq_map, mem_map_iff_of_complete mem_all, Prod.mk.injEq]

/-- The payload of a command leaves room for the rest of the frame. -/
theorem payload_fits (command : InstantCommand) :
    command.payload.length + Frame.overhead ≤ Frame.requestCapacity := by
  cases command <;> decide

/-- The names are in lower case. -/
theorem map_toLower_name (command : InstantCommand) :
    command.name.toList.map Char.toLower = command.name.toList := by
  cases command <;> decide

/-- No two commands have one name. -/
theorem name_injective {first second : InstantCommand} (same : first.name = second.name) :
    first = second := by
  revert same
  cases first <;> cases second <;> decide

/-- Since its own name is in lower case, a command is compared with a name that has been put so. -/
theorem sameName_iff {name : String} {command : InstantCommand} :
    sameName name command.name = true ↔
      name.toList.map Char.toLower = command.name.toList := by
  rw [sameName, beq_iff_eq, map_toLower_name]

/-- A name is looked up in lower case. -/
theorem ofName?_eq_some_iff {name : String} {command : InstantCommand} :
    ofName? name = some command ↔ name.toList.map Char.toLower = command.name.toList := by
  constructor
  · intro found
    have isSame := List.find?_some found
    exact sameName_iff.1 isSame
  · intro same
    have some : (ofName? name).isSome = true := by
      apply List.find?_isSome.2
      exact ⟨command, command.mem_all, sameName_iff.2 same⟩
    obtain ⟨other, found⟩ := Option.isSome_iff_exists.1 some
    have isSame := List.find?_some found
    have names : other.name = command.name :=
      String.toList_inj.1 ((sameName_iff.1 isSame).symm.trans same)
    rw [found, name_injective names]

/-- A name that is no command's is not found. -/
theorem ofName?_eq_none_iff {name : String} :
    ofName? name = none ↔
      ∀ command : InstantCommand, name.toList.map Char.toLower ≠ command.name.toList := by
  rw [Option.eq_none_iff_forall_not_mem]
  exact forall_congr' fun command => not_congr ofName?_eq_some_iff

end InstantCommand

/-! ## Operations -/

namespace Operation

/-- What an operation asks of a UPS while a state is to be polled: the code of a frame, and the
payload that goes with it. A name asks for a command if it is the command's in lower case. -/
inductive Asks (state : PollState) : Operation → Bytes → Bytes → Prop
  /-- Identification asks for the model, by `2A51`. -/
  | identify : Asks state identify [0x32, 0x41, 0x35, 0x31] []
  /-- A poll step asks for the frame of the state. -/
  | poll {code : Bytes} (entry : (state, code) ∈ PollState.table) : Asks state poll code []
  /-- A command is sent by `2A45`. -/
  | send {command : InstantCommand} {word : String} {payload : Bytes}
      (entry : (command, word, payload) ∈ InstantCommand.table) :
      Asks state (send command) [0x32, 0x41, 0x34, 0x35] payload
  /-- So is the command of a name. -/
  | execute {name word : String} {command : InstantCommand} {payload : Bytes}
      (entry : (command, word, payload) ∈ InstantCommand.table)
      (named : name.toList.map Char.toLower = word.toList) :
      Asks state (execute name) [0x32, 0x41, 0x34, 0x35] payload
  /-- So is the command of a name, if only its outcome is wanted. -/
  | instant {name word : String} {command : InstantCommand} {payload : Bytes}
      (entry : (command, word, payload) ∈ InstantCommand.table)
      (named : name.toList.map Char.toLower = word.toList) :
      Asks state (instant name) [0x32, 0x41, 0x34, 0x35] payload

/-- A name has the UPS carry out the command that the table has under it. -/
theorem request?_execute_eq_some_iff (state : PollState) {name : String} {command : Command}
    {payload : Bytes} :
    (execute name).request? state = some (command, payload) ↔
      command = .remoteControl ∧ ∃ known word, (known, word, payload) ∈ InstantCommand.table ∧
        name.toList.map Char.toLower = word.toList := by
  constructor
  · intro asked
    obtain ⟨known, found, same⟩ := Option.map_eq_some_iff.1 asked
    cases same
    exact ⟨rfl, known, known.name, InstantCommand.mem_table_iff.2 ⟨rfl, rfl⟩,
      InstantCommand.ofName?_eq_some_iff.1 found⟩
  · rintro ⟨rfl, known, word, entry, named⟩
    obtain ⟨rfl, rfl⟩ := InstantCommand.mem_table_iff.1 entry
    exact Option.map_eq_some_iff.2 ⟨known, InstantCommand.ofName?_eq_some_iff.2 named, rfl⟩

variable {state : PollState} {operation : Operation}

/-- The driver asks as the tables say. -/
theorem asks_iff {code payload : Bytes} :
    operation.Asks state code payload ↔
      ∃ command, operation.request? state = some (command, payload) ∧ command.code = code := by
  have remote : Command.remoteControl.code = [0x32, 0x41, 0x34, 0x35] :=
    Command.mem_table_iff.1 (by decide)
  constructor
  · intro asks
    cases asks with
    | identify => exact ⟨.readVendorInfo, rfl, Command.mem_table_iff.1 (by decide)⟩
    | poll entry => exact ⟨state.command, rfl, PollState.mem_table_iff.1 entry⟩
    | send entry =>
      obtain ⟨-, rfl⟩ := InstantCommand.mem_table_iff.1 entry
      exact ⟨.remoteControl, rfl, remote⟩
    | execute entry named | instant entry named =>
      have asked := (request?_execute_eq_some_iff state).2 ⟨rfl, _, _, entry, named⟩
      exact ⟨.remoteControl, asked, remote⟩
  · rintro ⟨command, asked, rfl⟩
    cases operation with
    | identify =>
      cases asked
      exact .identify
    | poll =>
      cases asked
      exact .poll (PollState.mem_table_iff.2 rfl)
    | send known =>
      cases asked
      exact .send (InstantCommand.mem_table_iff.2 ⟨rfl, rfl⟩)
    | shutDown => cases asked
    | execute name =>
      obtain ⟨rfl, known, word, entry, named⟩ := (request?_execute_eq_some_iff state).1 asked
      exact .execute entry named
    | instant name =>
      obtain ⟨rfl, known, word, entry, named⟩ := (request?_execute_eq_some_iff state).1 asked
      exact .instant entry named

/-- An operation asks nothing if the driver makes no request for it. -/
theorem not_asks_of_idle (idle : operation.request? state = none) (code payload : Bytes) :
    ¬ operation.Asks state code payload := by
  intro asks
  obtain ⟨command, asked, -⟩ := asks_iff.1 asks
  cases idle.symm.trans asked

end Operation

end UpsTelemetry
