import UpsTelemetry.Link.Traced
import UpsTelemetry.Proofs.Driver.Agreement
import UpsTelemetry.Proofs.Driver.Attempts

/-!
# What a record shows

A driver over a traced link does what it does over the link inside (`Session.perform_untraced`,
`Session.run_untraced`), so what a record shows is true of any link.

* `ExchangeCalls`: the calls of one exchange, and what it comes to with them. An exchange makes such
  calls and no others (`Line.exchange_calls`).
* `Exchanges`: the calls of a number of exchanges, all of which send the same frame if they send
  any. Attempts that are one exchange each leave so many of them in the record
  (`exchanges_stateBefore`).
-/

namespace UpsTelemetry

variable {τ ε σ : Type} {size : Nat}

/-! ## Forgetting the record -/

/-- The line over the link inside. -/
def Line.untraced (line : Line (TracedLink τ ε) size) : Line τ size :=
  ⟨line.link.link, line.buffer⟩

/-- The driver over the link inside. -/
def Driver.untraced (driver : Driver (TracedLink τ ε) size) : Driver τ size :=
  ⟨driver.link.link, driver.config, driver.state⟩

/-- The session over the link inside. -/
def Session.untraced (session : Session (TracedLink τ ε) σ size) : Session τ σ size :=
  ⟨session.driver.untraced, session.sink⟩

/-- The same session, with a record that begins here. -/
def Session.recorded [Link τ ε] (session : Session τ σ size) : Session (TracedLink τ ε) σ size :=
  ⟨⟨{ link := session.driver.link }, session.driver.config, session.driver.state⟩, session.sink⟩

/-- A line without its record begins as the line of the link does. -/
theorem Line.fresh_untraced (link : TracedLink τ ε) :
    (fresh link size).untraced = fresh link.link size := rfl

/-! ## The calls of an exchange -/

/-- The calls that one exchange makes for a frame, and what it comes to with them. -/
inductive ExchangeCalls {ε : Type} (size timeoutMillis : Nat) (frame : Bytes) :
    Except (DriverError ε) Nat → List (LinkCall ε) → Prop
  /-- Input could not be thrown away. -/
  | unflushed (fault : ε) :
      ExchangeCalls size timeoutMillis frame (.error (.link fault)) [.flushInput (.error fault)]
  /-- The frame could not be sent. -/
  | unsent (fault : ε) :
      ExchangeCalls size timeoutMillis frame (.error (.link fault))
        [.flushInput (.ok ()), .send frame (.error fault)]
  /-- The frame was not taken in time. -/
  | untaken :
      ExchangeCalls size timeoutMillis frame (.error .timeout)
        [.flushInput (.ok ()), .send frame (.ok 0)]
  /-- The reply could not be received. -/
  | unreceived {written : Nat} (taken : written ≠ 0) (fault : ε) :
      ExchangeCalls size timeoutMillis frame (.error (.link fault))
        [.flushInput (.ok ()), .send frame (.ok written),
          .receive size timeoutMillis (.error fault) []]
  /-- No reply came in time. -/
  | silent {written : Nat} (taken : written ≠ 0) :
      ExchangeCalls size timeoutMillis frame (.error .timeout)
        [.flushInput (.ok ()), .send frame (.ok written), .receive size timeoutMillis (.ok 0) []]
  /-- A reply came. -/
  | answered {written got : Nat} {bytes : Bytes} (taken : written ≠ 0) (came : got ≠ 0)
      (length : bytes.length = min got size) :
      ExchangeCalls size timeoutMillis frame (.ok got)
        [.flushInput (.ok ()), .send frame (.ok written),
          .receive size timeoutMillis (.ok got) bytes]

/-- The calls of so many exchanges, one after the other, each for the same frame. -/
def Exchanges {ε : Type} (size timeoutMillis : Nat) (frame : Bytes) (count : Nat)
    (calls : List (LinkCall ε)) : Prop :=
  ∃ blocks : List (List (LinkCall ε)), blocks.length = count ∧ calls = blocks.flatten ∧
    ∀ block ∈ blocks, ∃ outcome, ExchangeCalls size timeoutMillis frame outcome block

/-- Attempts that are one exchange each leave the calls of as many exchanges. -/
theorem exchanges_stateBefore {α : Type} {timeoutMillis : Nat} {frame : Bytes}
    {attempt : Line (TracedLink τ ε) size →
      Except (DriverError ε) α × Line (TracedLink τ ε) size}
    (exchanges : ∀ line, ∃ outcome calls, ExchangeCalls size timeoutMillis frame outcome calls ∧
      (attempt line).2.link.calls = line.link.calls ++ calls)
    (count : Nat) (line : Line (TracedLink τ ε) size) :
    ∃ calls, Exchanges size timeoutMillis frame count calls ∧
      (stateBefore attempt count line).link.calls = line.link.calls ++ calls := by
  induction count generalizing line with
  | zero => exact ⟨[], ⟨[], rfl, rfl, nofun⟩, (List.append_nil _).symm⟩
  | succ count ih =>
    obtain ⟨outcome, block, made, recorded⟩ := exchanges line
    obtain ⟨calls, ⟨blocks, length, rfl, all⟩, rest⟩ := ih (attempt line).2
    refine ⟨block ++ blocks.flatten, ⟨block :: blocks, ?_, ?_, ?_⟩, ?_⟩
    · rw [List.length_cons, length]
    · rw [List.flatten_cons]
    · intro other mem
      rcases List.mem_cons.1 mem with rfl | mem
      · exact ⟨outcome, made⟩
      · exact all other mem
    · rw [stateBefore, rest, recorded, List.append_assoc]

variable [Link τ ε] [TelemetrySink σ]

/-- What was received last is recorded last, with all its bytes. -/
theorem TracedLink.last_call_of_receive {buffer buffer' : ReceiveBuffer size}
    {timeoutMillis count : Nat} {traced traced' : TracedLink τ ε}
    (received : Link.receive buffer timeoutMillis traced = (.ok count, buffer', traced')) :
    traced'.calls.getLast? =
      some (.receive size timeoutMillis (.ok count) (buffer'.received count)) := by
  simp only [Link.receive] at received
  generalize Link.receive buffer timeoutMillis traced.link = inner at received
  obtain ⟨outcome, after, link⟩ := inner
  cases received
  exact List.getLast?_concat

namespace Line

variable {config : Config} {command : Command} {payload frame : Bytes}

/-- An exchange makes the calls of one exchange, if its request can be built. -/
theorem exchange_calls (line : Line (TracedLink τ ε) size)
    (built : Frame.request? Frame.requestCapacity command .current config.address payload =
      .ok frame) :
    ∃ calls, ExchangeCalls size config.timeoutMillis frame
        (line.exchange config command payload).1 calls ∧
      (line.exchange config command payload).2.link.calls = line.link.calls ++ calls := by
  unfold exchange sendAndAwait await
  simp only [built, Link.flushInput, Link.send, Link.receive]
  cases Link.flushInput line.link.link with
  | mk flushed link =>
    cases flushed with
    | error fault => exact ⟨_, .unflushed fault, rfl⟩
    | ok done =>
      dsimp only
      cases Link.send frame link with
      | mk sent link =>
        cases sent with
        | error fault => exact ⟨_, .unsent fault, by simp⟩
        | ok written =>
          dsimp only
          by_cases refused : written = 0
          · subst refused
            exact ⟨_, .untaken, by simp⟩
          rw [if_neg refused]
          cases Link.receive line.buffer config.timeoutMillis link with
          | mk received rest =>
            obtain ⟨buffer, link⟩ := rest
            cases received with
            | error fault => exact ⟨_, .unreceived refused fault, by simp⟩
            | ok got =>
              by_cases silent : got = 0
              · subst silent
                exact ⟨_, .silent refused, by simp [ReceiveBuffer.received]⟩
              · dsimp only
                rw [if_neg silent]
                exact ⟨_, .answered refused silent (buffer.length_received got), by simp⟩

/-- The last call of an exchange with a reply is the one that received it. -/
theorem last_call_of_answered {line line' : Line (TracedLink τ ε) size} {got : Nat}
    (exchanged : line.exchange config command payload = (.ok got, line')) :
    got ≠ 0 ∧ line'.link.calls.getLast? =
      some (.receive size config.timeoutMillis (.ok got) (line'.reply got).raw) := by
  obtain ⟨nonzero, link, received⟩ := received_of_exchange exchanged
  exact ⟨nonzero, TracedLink.last_call_of_receive received⟩

end Line

/-! ## A record changes nothing -/

/-- The link inside a traced link is this one. -/
def TracedLink.Holds (traced : TracedLink τ ε) (link : τ) : Prop :=
  traced.link = link

/-- A traced link agrees with the link inside. -/
theorem linksAgree_holds :
    LinksAgree (TracedLink.Holds : TracedLink τ ε → τ → Prop) TracedLink.Holds where
  idle_of_busy holds := holds
  flushInput := by
    rintro traced link rfl
    exact ⟨rfl, rfl⟩
  send := by
    rintro frame traced link rfl
    exact ⟨rfl, rfl⟩
  receive := by
    rintro size buffer timeoutMillis traced link rfl
    exact ⟨rfl, rfl, rfl⟩

/-- An exchange comes to the same, and leaves the same behind, with a record and without. -/
theorem Line.exchange_untraced (config : Config) (command : Command) (payload : Bytes)
    (line : Line (TracedLink τ ε) size) :
    line.untraced.exchange config command payload =
      Prod.map id untraced (line.exchange config command payload) := by
  have holds : Line.Corresponds TracedLink.Holds line line.untraced := ⟨rfl, rfl⟩
  have agree := exchange_agree linksAgree_holds config command payload holds
  generalize line.untraced.exchange config command payload = result' at agree ⊢
  obtain ⟨outcome', link', buffer'⟩ := result'
  obtain ⟨rfl, rfl, rfl⟩ := agree
  rfl

/-- An operation comes to the same, and leaves the same behind, with a record and without. -/
theorem Session.perform_untraced (operation : Operation)
    (session : Session (TracedLink τ ε) σ size) :
    session.untraced.perform operation = Prod.map id untraced (session.perform operation) := by
  have holds : Session.Corresponds TracedLink.Holds session session.untraced :=
    ⟨⟨rfl, rfl, rfl⟩, rfl⟩
  have agree := perform_agree linksAgree_holds operation holds
  generalize session.untraced.perform operation = result' at agree ⊢
  obtain ⟨step', ⟨link', config', state'⟩, sink'⟩ := result'
  obtain ⟨rfl, ⟨rfl, rfl, rfl⟩, rfl⟩ := agree
  rfl

/-- A run comes to the same, and leaves the same behind, with a record and without. -/
theorem Session.run_untraced (operations : List Operation) (session : Session τ σ size) :
    run operations session = Prod.map id untraced (run operations session.recorded) := by
  have holds : Session.Corresponds TracedLink.Holds session.recorded session :=
    ⟨⟨rfl, rfl, rfl⟩, rfl⟩
  have agree := run_agree linksAgree_holds operations holds
  generalize run operations session = result' at agree ⊢
  obtain ⟨steps', ⟨link', config', state'⟩, sink'⟩ := result'
  obtain ⟨rfl, ⟨rfl, rfl, rfl⟩, rfl⟩ := agree
  rfl

end UpsTelemetry
