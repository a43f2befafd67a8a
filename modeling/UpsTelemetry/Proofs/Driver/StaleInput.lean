import UpsTelemetry.Proofs.Bench.SimulatedUps
import UpsTelemetry.Proofs.Driver.Agreement
import UpsTelemetry.Sink.Recorder

/-!
# Stale input has no influence

Input may come up at a UART that nobody asked for: noise, or what was left of a reply. An exchange
throws it away before anything else, so nobody can tell whether it was ever there.

To say this of whole sessions, a bench lets things happen to the UPS between the operations of the
host (`Happening`), stray input among them, and observes after each what came of it and what the UPS
was sent (`Session.play`).

* `SimulatedUps.linksAgree_discarded`: UPSs that differ in their unread bytes only agree.
* `Session.happen_agree`, `Session.happen_stray`: one happening in two such sessions, and stray
  input in one of them.
* `Session.stale_input_has_no_influence`: whatever is observed is observed without stray input too.
-/

namespace UpsTelemetry

variable {σ : Type} {size : Nat}

/-! ## What may happen -/

/-- Something that happens in a session with a simulated UPS. -/
inductive Happening
  /-- The host uses its driver. -/
  | operation (operation : Operation)
  /-- A reply is prepared. -/
  | prepare (reply : Bytes)
  /-- Writing begins to fail, or works again. -/
  | setWriteFails (fails : Bool)
  /-- What was written is forgotten. -/
  | clearWritten
  /-- Input comes up that nobody asked for, in place of what was unread. -/
  | stray (bytes : Bytes)

/-- Whether input comes up that nobody asked for. -/
def Happening.isStray : Happening → Bool
  | stray _ => true
  | _ => false

/-- What comes of a happening: a step of the session, or an answer of the UPS. -/
inductive Happened
  /-- The host has done an operation. -/
  | stepped (step : Step SimulatedFault)
  /-- The UPS has done what it was told. -/
  | answered (answer : Except SimulatedFault SimulatedUps.Answer)

/-- What can be observed of a happening. -/
structure Observation where
  /-- What happened. -/
  happening : Happening
  /-- What came of it. -/
  result : Happened
  /-- The state to poll next. -/
  state : PollState
  /-- What was sent to the UPS. -/
  written : Bytes
  /-- In how many writes. -/
  writes : Nat

namespace Session

variable [TelemetrySink σ]

/-- Does something to the UPS of a session. -/
def act (action : SimulatedUps.Action) (session : Session (SerialLink SimulatedUps) σ size) :
    Happened × Session (SerialLink SimulatedUps) σ size :=
  let (answer, uart) := session.driver.link.uart.act action
  (.answered answer, { session with driver := { session.driver with link := ⟨uart⟩ } })

/-- Lets something happen. -/
def happen (happening : Happening) (session : Session (SerialLink SimulatedUps) σ size) :
    Happened × Session (SerialLink SimulatedUps) σ size :=
  match happening with
  | .operation operation =>
    let (step, after) := session.perform operation
    (.stepped step, after)
  | .prepare reply => session.act (.prepare reply)
  | .setWriteFails fails => session.act (.setWriteFails fails)
  | .clearWritten => session.act .clearWritten
  | .stray bytes => session.act (.setUnread bytes)

/-- What is observed of a happening that comes out like this. -/
def observe (happening : Happening)
    (outcome : Happened × Session (SerialLink SimulatedUps) σ size) : Observation where
  happening := happening
  result := outcome.1
  state := outcome.2.driver.state
  written := outcome.2.driver.link.uart.written
  writes := outcome.2.driver.link.uart.writes

/-- Lets things happen one after the other, and observes each. -/
def play : List Happening → Session (SerialLink SimulatedUps) σ size →
    List Observation × Session (SerialLink SimulatedUps) σ size
  | [], session => ([], session)
  | happening :: rest, session =>
    let outcome := session.happen happening
    let (observations, final) := play rest outcome.2
    (observe happening outcome :: observations, final)

end Session

/-! ## UPSs that differ in their unread bytes -/

namespace SimulatedUps

/-- The UPSs behind two links are the same but for their unread bytes, and reading does not fail. -/
structure SameButUnread (link link' : SerialLink SimulatedUps) : Prop where
  discarded_eq : link.uart.discarded = link'.uart.discarded
  reads : link.uart.readFails = false

/-- The UPSs behind two links are the same, and reading does not fail. -/
structure SameReading (link link' : SerialLink SimulatedUps) : Prop where
  link_eq : link = link'
  reads : link.uart.readFails = false

/-- Two ports that differ in what is unread are one port with either. -/
theorem SameButUnread.eq_withUnread {link link' : SerialLink SimulatedUps}
    (same : SameButUnread link link') :
    { link.uart with unread := link'.uart.unread } = link'.uart := by
  have same : ({ link.uart.discarded with unread := link'.uart.unread } : SimulatedUps) =
      { link'.uart.discarded with unread := link'.uart.unread } := by rw [same.discarded_eq]
  exact same

/-- Reading does not fail on the other of them either. -/
theorem SameButUnread.reads' {link link' : SerialLink SimulatedUps}
    (same : SameButUnread link link') : link'.uart.readFails = false :=
  (congrArg readFails same.discarded_eq).symm.trans same.reads

/-- UPSs that differ in their unread bytes only agree: throwing away input makes them the same. -/
theorem linksAgree_discarded : LinksAgree SameButUnread SameReading where
  idle_of_busy same := ⟨congrArg (fun link => link.uart.discarded) same.link_eq, same.reads⟩
  flushInput := by
    intro link link' same
    simp only [Link.flushInput, drain_eq same.reads, drain_eq same.reads', same.discarded_eq]
    exact ⟨rfl, rfl, same.reads'⟩
  send := by
    rintro frame link link' ⟨rfl, reads⟩
    exact ⟨rfl, rfl, (transmit_readFails frame link.uart).trans reads⟩
  receive := by
    rintro size buffer timeoutMillis link link' ⟨rfl, reads⟩
    exact ⟨rfl, rfl, rfl, collect_readFails reads buffer⟩

end SimulatedUps

/-! ## Sessions that differ in what is unread -/

namespace Session

open SimulatedUps (SameButUnread)

variable [TelemetrySink σ] {session session' : Session (SerialLink SimulatedUps) σ size}

omit [TelemetrySink σ] in
/-- Something done to the UPSs of two sessions comes to the same if it takes no account of what is
unread. -/
theorem act_agree (action : SimulatedUps.Action)
    (same : Corresponds SameButUnread session session')
    (apart : ∀ (ups : SimulatedUps) (unread : Bytes),
      ({ ups with unread } : SimulatedUps).act action =
        Prod.map id (fun after => { after with unread }) (ups.act action))
    (reads : ∀ ups : SimulatedUps, (ups.act action).2.readFails = ups.readFails) :
    Agree (Corresponds SameButUnread) (session.act action) (session'.act action) := by
  have links := same.driver.link
  have other := apart session.driver.link.uart session'.driver.link.uart.unread
  rw [links.eq_withUnread] at other
  unfold act
  rw [other]
  refine ⟨rfl, ⟨⟨rfl, (reads _).trans links.reads⟩, same.driver.config_eq, same.driver.state_eq⟩,
    same.sink_eq⟩

/-- Whatever happens comes to the same in two sessions that differ in what is unread, unless it
leaves something unread itself. -/
theorem happen_agree {happening : Happening} (wanted : happening.isStray = false)
    (same : Corresponds SameButUnread session session') :
    Agree (Corresponds SameButUnread) (session.happen happening) (session'.happen happening) := by
  cases happening with
  | operation operation =>
    obtain ⟨steps, after⟩ := perform_agree SimulatedUps.linksAgree_discarded operation same
    exact ⟨congrArg Happened.stepped steps, after⟩
  | prepare reply =>
    apply act_agree (.prepare reply) same
    · intro ups unread
      unfold SimulatedUps.act SimulatedUps.prepare
      dsimp only
      split <;> rfl
    · intro ups
      unfold SimulatedUps.act SimulatedUps.prepare
      dsimp only
      split <;> rfl
  | setWriteFails fails => exact act_agree (.setWriteFails fails) same (fun _ _ => rfl) fun _ => rfl
  | clearWritten => exact act_agree .clearWritten same (fun _ _ => rfl) fun _ => rfl
  | stray bytes => cases wanted

/-- Stray input makes no difference but to what is unread. -/
theorem happen_stray {happening : Happening} (stray : happening.isStray = true)
    (same : Corresponds SameButUnread session session') :
    Corresponds SameButUnread (session.happen happening).2 session' := by
  cases happening with
  | stray bytes =>
    obtain ⟨⟨links, configs, states⟩, sinks⟩ := same
    refine ⟨⟨?_, configs, states⟩, sinks⟩
    have kept : (session.driver.link.uart.setUnread bytes).2.discarded =
          session.driver.link.uart.discarded ∧
        (session.driver.link.uart.setUnread bytes).2.readFails =
          session.driver.link.uart.readFails := by
      unfold SimulatedUps.setUnread
      split <;> exact ⟨rfl, rfl⟩
    exact ⟨kept.1.trans links.discarded_eq, kept.2.trans links.reads⟩
  | _ => cases stray

omit [TelemetrySink σ] in
/-- An observation names what it is of. -/
@[simp] theorem observe_happening (happening : Happening)
    (outcome : Happened × Session (SerialLink SimulatedUps) σ size) :
    (observe happening outcome).happening = happening := rfl

/-- A play begins with its first happening and goes on from there. -/
theorem play_cons (happening : Happening) (rest : List Happening)
    (session : Session (SerialLink SimulatedUps) σ size) :
    play (happening :: rest) session =
      (observe happening (session.happen happening) :: (play rest (session.happen happening).2).1,
        (play rest (session.happen happening).2).2) := rfl

omit [TelemetrySink σ] in
/-- What is observed is the same in two such sessions. -/
theorem observe_eq (happening : Happening)
    {outcome outcome' : Happened × Session (SerialLink SimulatedUps) σ size}
    (agree : Agree (Corresponds SameButUnread) outcome outcome') :
    observe happening outcome = observe happening outcome' := by
  have links := agree.states.driver.link
  unfold observe
  rw [agree.result_eq, agree.states.driver.state_eq, ← links.eq_withUnread]

/-- Stray input can be left out of what happens. -/
theorem play_agree (happenings : List Happening)
    (same : Corresponds SameButUnread session session') :
    Agree (Corresponds SameButUnread)
      ((play happenings session).1.filter fun observation => !observation.happening.isStray,
        (play happenings session).2)
      (play (happenings.filter fun happening => !happening.isStray) session') := by
  induction happenings generalizing session session' with
  | nil => exact ⟨rfl, same⟩
  | cons happening rest ih =>
    cases stray : happening.isStray with
    | true =>
      have later := ih (happen_stray stray same)
      simp only [play_cons, List.filter_cons, observe_happening, stray, Bool.not_true,
        Bool.false_eq_true, if_false]
      exact later
    | false =>
      have agree := happen_agree stray same
      have later := ih agree.states
      simp only [play_cons, List.filter_cons, observe_happening, stray, Bool.not_false, if_true]
      refine ⟨?_, later.states⟩
      dsimp only
      rw [observe_eq happening agree, ← later.result_eq]

/-- **Stale input has no influence.** As long as reading does not fail: whatever stray input comes
up in a session, and however much, everything else is observed as if it had not, and the host knows
the same in the end. Stray input is all thrown away by the next exchange. And what an exchange
receives is the next reply that was prepared, up to its end marker: neither what was unread nor what
stands behind the end of an earlier reply. -/
theorem stale_input_has_no_influence (session : Session (SerialLink SimulatedUps) σ size)
    (reads : session.driver.link.uart.readFails = false) :
    (∀ happenings : List Happening,
      let wanted := happenings.filter fun happening => !happening.isStray
      ((play happenings session).1.filter fun observation => !observation.happening.isStray) =
          (play wanted session).1 ∧
        (play happenings session).2.sink = (play wanted session).2.sink ∧
        (play happenings session).2.driver.link.uart.written =
          (play wanted session).2.driver.link.uart.written) ∧
    (∀ happenings : List Happening,
      let ups := (play happenings session).2.driver.link.uart
      SerialLink.drain ups = (.ok (), { ups with unread := [] }) ∧
      ∀ (config : Config) (command : Command) (payload : Bytes) (buffer : ReceiveBuffer size)
        (got : Nat) (line' : Line (SerialLink SimulatedUps) size),
        (Line.mk ⟨ups⟩ buffer).exchange config command payload = (.ok got, line') →
          ∃ reply rest, ups.replies = reply :: rest ∧ line'.link.uart.replies = rest ∧
            line'.reply got = ⟨(upToEnd reply).take size⟩) := by
  have same : Corresponds SameButUnread session session := ⟨⟨⟨rfl, reads⟩, rfl, rfl⟩, rfl⟩
  refine ⟨fun happenings => ?_, fun happenings => ?_⟩
  · intro wanted
    have agree := play_agree happenings same
    have links := agree.states.driver.link
    have written := congrArg SimulatedUps.written links.discarded_eq
    exact ⟨agree.result_eq, agree.states.sink_eq, written⟩
  · intro ups
    have reads' : ups.readFails = false := (play_agree happenings same).states.driver.link.reads
    refine ⟨SimulatedUps.drain_eq reads', ?_⟩
    intro config command payload buffer got line' exchanged
    exact SimulatedUps.exchange_eq_ok reads' exchanged

/-- Even an intact acknowledgement, if nobody asked for it, is no answer to the command that is sent
next, and no part of the reply to a poll step. -/
theorem stale_input_has_no_influence_of_acknowledgement :
    let acknowledgement : Bytes := SimulatedUps.reply 0x00 []
    let warnings : Bytes := SimulatedUps.reply 0x00 (SimulatedUps.infoWith 54 [])
    let session : Session (SerialLink SimulatedUps) Recorder standardBufferSize :=
      ⟨⟨⟨{}⟩, .standard, .warning⟩, .empty⟩
    let happenings : List Happening :=
      [.stray acknowledgement, .operation (.instant "test.battery.start"), .prepare warnings,
        .stray acknowledgement, .operation .poll]
    let wanted : List Happening :=
      [.operation (.instant "test.battery.start"), .prepare warnings, .operation .poll]
    session.driver.link.uart.readFails = false ∧
      ((play happenings session).1.filter fun observation => !observation.happening.isStray) =
        (play wanted session).1 := by
  intro acknowledgement warnings session happenings wanted
  have reads : session.driver.link.uart.readFails = false := rfl
  obtain ⟨same, -⟩ := stale_input_has_no_influence session reads
  exact ⟨reads, (same happenings).1⟩

end Session

end UpsTelemetry
