import UpsTelemetry.Driver.Exchange
import UpsTelemetry.Link.Traced
import UpsTelemetry.Proofs.Link.Stream

/-!
# Links that fill what they report

A receive buffer is used again without being cleared, so it may hold bytes of an earlier reply. That
does no harm over a link which fills as much of the buffer as it reports: then nothing that comes of
a receive depends on what was in the buffer before.

* `Link.Fills`: a link is of this kind.
* `SerialLink.fills`: every serial link is, whatever its UART does. `Link.Fills.traced`: keeping a
  record does not change it.
* `Line.exchange_alike`: over such a link an exchange comes to the same with any two buffers.
-/

namespace UpsTelemetry

variable {τ ε : Type} {size : Nat}

/-- Two receives came to the same: they report the same, leave the same link, and the bytes they
report are the same. What else is in the buffers may differ. -/
structure ReceivedAlike (first second : Except ε Nat × ReceiveBuffer size × τ) : Prop where
  /-- The reports are the same. -/
  outcome_eq : first.1 = second.1
  /-- The links are the same afterwards. -/
  link_eq : first.2.2 = second.2.2
  /-- The bytes reported are the same. -/
  bytes_eq : ∀ got, first.1 = .ok got → first.2.1.received got = second.2.1.received got

/-- A link fills as much of a buffer as it reports, and no more than there is. -/
structure Link.Fills (τ : Type) {ε : Type} [Link τ ε] (size : Nat) : Prop where
  /-- It reports no more bytes than the buffer holds. -/
  within : ∀ (buffer : ReceiveBuffer size) (timeoutMillis : Nat) (link : τ) (got : Nat),
    (Link.receive buffer timeoutMillis link).1 = .ok got → got ≤ size
  /-- It does not look at what was in the buffer. -/
  alike : ∀ (first second : ReceiveBuffer size) (timeoutMillis : Nat) (link : τ),
    ReceivedAlike (Link.receive first timeoutMillis link) (Link.receive second timeoutMillis link)

/-! ## Serial links -/

namespace SerialLink

variable {υ : Type} [Fault ε] [Uart υ ε]

/-- A read that fails ends the receive in the same way with any buffer. -/
theorem collect_fault {count : Nat} {uart : υ} (room : count < size) {fault : ε}
    (read : (Uart.read (size - count) uart).1 = .error fault) (buffer : ReceiveBuffer size) :
    collect buffer count uart =
      (outcomeAt (.error fault) count, buffer, (Uart.read (size - count) uart).2) := by
  apply collect_dry room
  rw [read]
  rfl

/-- Reading on comes to the same from any two buffers which hold the same bytes so far, and never
reports more than there is room for. -/
theorem collect_alike {count : Nat} (first second : ReceiveBuffer size) (uart : υ)
    (same : first.received count = second.received count) (inside : count ≤ size) :
    ReceivedAlike (collect first count uart) (collect second count uart) ∧
      ∀ got, (collect first count uart).1 = .ok got → got ≤ size := by
  -- By induction on the room left: a piece without an end marker is put behind what is there.
  induction room : size - count using Nat.strong_induction_on
    generalizing count first second uart with
  | _ left ih =>
    subst room
    by_cases room : count < size
    swap
    · rw [collect_full room, collect_full room]
      refine ⟨⟨rfl, rfl, ?_⟩, ?_⟩
      · rintro got ⟨⟩
        exact same
      · rintro got ⟨⟩
        exact inside
    cases read : (Uart.read (size - count) uart).1 with
    | error fault =>
      rw [collect_fault room read, collect_fault room read]
      have reported : ∀ got, outcomeAt (.error fault) count = .ok got → got = count := by
        intro got came
        unfold outcomeAt at came
        dsimp only at came
        split at came
        · exact (Except.ok.inj came).symm
        · cases came
      refine ⟨⟨rfl, rfl, fun got came => ?_⟩, fun got came => ?_⟩
      · rw [reported got came]
        exact same
      · rw [reported got came]
        exact inside
    | ok piece =>
      by_cases empty : piece = []
      · have nothing : (Uart.read (size - count) uart).1 =
            (Except.ok () : Except ε Unit).map fun _ => [] := by
          rw [read, empty]
          rfl
        rw [collect_dry room nothing, collect_dry room nothing]
        refine ⟨⟨rfl, rfl, ?_⟩, ?_⟩
        · rintro got ⟨⟩
          exact same
        · rintro got ⟨⟩
          exact inside
      have fits := Uart.length_read_le read
      have whole : count + piece.length ≤ size := by omega
      have front : ∀ more ≤ piece.length,
          (first.overwrite count piece).received (count + more) =
            (second.overwrite count piece).received (count + more) := by
        intro more within
        rw [first.received_overwrite whole within, second.received_overwrite whole within, same]
      rw [collect_piece room empty read, collect_piece room empty read]
      cases found : piece.idxOf? Frame.endMarker with
      | some position =>
        have before := (upToEnd_append_of_idxOf? found []).1
        refine ⟨⟨rfl, rfl, ?_⟩, ?_⟩
        · rintro got ⟨⟩
          exact front (position + 1) before
        · rintro got ⟨⟩
          omega
      | none =>
        have nonempty := List.length_pos_iff.2 empty
        exact ih _ (by omega) _ _ _ (front _ (Nat.le_refl _)) whole rfl

/-- A serial link fills what it reports, whatever the UART does. -/
theorem fills (υ : Type) {ε : Type} [Fault ε] [Uart υ ε] [FiniteInput υ] (size : Nat) :
    Link.Fills (SerialLink υ) size where
  within buffer _ link :=
    (collect_alike buffer buffer link.uart rfl (Nat.zero_le size)).2
  alike first second _ link := by
    obtain ⟨same, -⟩ := collect_alike first second link.uart rfl (Nat.zero_le size)
    exact ⟨same.outcome_eq, congrArg SerialLink.mk same.link_eq, same.bytes_eq⟩

end SerialLink

variable [Link τ ε]

/-! ## Traced links -/

/-- A traced link fills what it reports if the link inside does. -/
theorem Link.Fills.traced (fills : Link.Fills τ size) : Link.Fills (TracedLink τ ε) size where
  within buffer timeoutMillis traced := fills.within buffer timeoutMillis traced.link
  alike first second timeoutMillis traced := by
    have same := fills.alike first second timeoutMillis traced.link
    simp only [Link.receive]
    generalize Link.receive first timeoutMillis traced.link = received at same ⊢
    generalize Link.receive second timeoutMillis traced.link = received' at same ⊢
    obtain ⟨came, buffer, link⟩ := received
    obtain ⟨came', buffer', link'⟩ := received'
    obtain ⟨outcome, left, bytes⟩ := same
    obtain rfl : came = came' := outcome
    obtain rfl : link = link' := left
    refine ⟨rfl, ?_, bytes⟩
    cases came with
    | error fault => rfl
    | ok got =>
      dsimp only
      rw [show buffer.received got = buffer'.received got from bytes got rfl]

/-! ## Exchanges -/

namespace Line

/-- Two exchanges came to the same: they report the same, leave the same link, and bring the same
reply. What else is in the buffers may differ. -/
structure RepliedAlike (first second : Except (DriverError ε) Nat × Line τ size) : Prop where
  /-- The reports are the same. -/
  outcome_eq : first.1 = second.1
  /-- The links are the same afterwards. -/
  link_eq : first.2.link = second.2.link
  /-- The replies are the same. -/
  reply_eq : ∀ got, first.1 = .ok got → first.2.reply got = second.2.reply got
  /-- A reply has some bytes, and no more than there is room for. -/
  within : ∀ got, first.1 = .ok got → 0 < got ∧ got ≤ size

omit [Link τ ε] in
/-- Exchanges that fail with the same error are alike. -/
theorem repliedAlike_of_error (error : DriverError ε) (link : τ)
    (first second : ReceiveBuffer size) :
    RepliedAlike (.error error, ⟨link, first⟩) (.error error, ⟨link, second⟩) :=
  ⟨rfl, rfl, nofun, nofun⟩

variable (fills : Link.Fills τ size) (config : Config) (link : τ)
  (first second : ReceiveBuffer size)

include fills

/-- What is awaited does not depend on what the buffer held before. -/
theorem await_alike : RepliedAlike (await config ⟨link, first⟩) (await config ⟨link, second⟩) := by
  have within := fills.within first config.timeoutMillis link
  obtain ⟨outcome, left, bytes⟩ := fills.alike first second config.timeoutMillis link
  unfold await
  dsimp only
  generalize Link.receive first config.timeoutMillis link = received at *
  generalize Link.receive second config.timeoutMillis link = received' at *
  obtain ⟨came, buffer, link⟩ := received
  obtain ⟨came', buffer', link'⟩ := received'
  obtain rfl : came = came' := outcome
  obtain rfl : link = link' := left
  cases came with
  | error fault => exact repliedAlike_of_error _ _ _ _
  | ok got =>
    dsimp only
    by_cases silent : got = 0
    · rw [if_pos silent, if_pos silent]
      exact repliedAlike_of_error _ _ _ _
    · rw [if_neg silent, if_neg silent]
      refine ⟨rfl, rfl, ?_, ?_⟩
      · rintro got ⟨⟩
        exact congrArg Reply.mk (bytes _ rfl)
      · rintro got ⟨⟩
        exact ⟨Nat.pos_of_ne_zero silent, within _ rfl⟩

/-- Nor does it if a frame is sent first. -/
theorem sendAndAwait_alike (frame : Bytes) :
    RepliedAlike (sendAndAwait config frame ⟨link, first⟩)
      (sendAndAwait config frame ⟨link, second⟩) := by
  unfold sendAndAwait
  dsimp only
  obtain ⟨sent, link⟩ := Link.send frame link
  cases sent with
  | error fault => exact repliedAlike_of_error _ _ _ _
  | ok written =>
    dsimp only
    by_cases refused : written = 0
    · rw [if_pos refused, if_pos refused]
      exact repliedAlike_of_error _ _ _ _
    · rw [if_neg refused, if_neg refused]
      exact await_alike fills config link first second

/-- Over a link that fills what it reports, an exchange comes to the same with any two buffers. -/
theorem exchange_alike (command : Command) (payload : Bytes) :
    RepliedAlike (exchange config command payload ⟨link, first⟩)
      (exchange config command payload ⟨link, second⟩) := by
  unfold exchange
  dsimp only
  obtain ⟨flushed, link⟩ := Link.flushInput link
  cases flushed with
  | error fault => exact repliedAlike_of_error _ _ _ _
  | ok done =>
    dsimp only
    cases Frame.request? Frame.requestCapacity command .current config.address payload with
    | error error => exact repliedAlike_of_error _ _ _ _
    | ok frame => exact sendAndAwait_alike fills config link first second frame

end Line

end UpsTelemetry
