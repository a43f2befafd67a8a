import UpsTelemetry.Driver.Exchange
import UpsTelemetry.Proofs.Frame.ReturnCode

/-!
# Which replies are accepted

`Line.request` decides about a reply in three places: in the exchange, in `accept` and in `checked`.
Here the decision is one statement. `Accepted` says what is asked of a reply, `Line.Accepts` that an
exchange brought such a reply, and `request_eq_ok_iff` that a request comes out well exactly then.

* `Refusal`: the first reason for which `accept` refuses what was read. `accept_eq_error_iff` says
  that the reader gives this reason, and no other.
-/

namespace UpsTelemetry

/-- What is asked of a reply, if the link claims to have received `got` bytes. -/
structure Accepted (config : Config) (minimumInfo got : Nat) (reply : Reply) : Prop where
  /-- There are enough bytes for a header and `minimumInfo` characters. -/
  enough : Frame.headerLength + minimumInfo ≤ got
  /-- The UPS reports success. -/
  success : reply.returnCode = .ok 0x00
  /-- With strict settings, the frame is intact. -/
  intact : config.strict = true → reply.verify = .ok ()

/-- A reply is accepted exactly if it is as long as the minimum and its return code reads as zero.
-/
theorem accept_eq_ok_iff {ε : Type} {read : Except (DriverError ε) Nat} {buffer : Bytes}
    {minimum : Nat} {reply : Reply} :
    accept read buffer minimum = .ok reply ↔
      ∃ got, read = .ok got ∧ reply = ⟨buffer.take got⟩ ∧ minimum ≤ got ∧
        reply.returnCode = .ok 0x00 := by
  constructor
  · intro accepted
    unfold accept at accepted
    -- One branch for each way out: a failed read, too few bytes, no return code, a rejection.
    split at accepted
    · cases accepted
    · next got =>
      split at accepted
      · cases accepted
      · next enough =>
        dsimp only at accepted
        split at accepted
        · cases accepted
        · next code coded =>
          split at accepted
          · next success =>
            rw [ReturnCode.ofByte_eq_ok_iff] at success
            subst success
            obtain rfl := Except.ok.inj accepted
            exact ⟨got, rfl, rfl, Nat.not_lt.1 enough, coded⟩
          · cases accepted
  · rintro ⟨got, rfl, rfl, enough, success⟩
    unfold accept
    simp only [if_neg (Nat.not_lt.2 enough), success, ReturnCode.ofByte_eq_ok_iff.2]

/-! ## Refusals -/

/-- The first reason not to accept what was read into a buffer. -/
inductive Refusal {ε : Type} (buffer : Bytes) (minimum : Nat) :
    Except (DriverError ε) Nat → DriverError ε → Prop
  /-- Reading failed. -/
  | failed (error : DriverError ε) : Refusal buffer minimum (.error error) error
  /-- Fewer bytes are said to have come than there must be. -/
  | short {got : Nat} (few : got < minimum) :
      Refusal buffer minimum (.ok got) (.frame (.shortRead minimum got))
  /-- The bytes that are there end before the return code does. -/
  | noCode {got : Nat} (enough : minimum ≤ got) (cut : min got buffer.length < 9) :
      Refusal buffer minimum (.ok got) (.frame (.shortRead 9 (min got buffer.length)))
  /-- The return code is not read as zero. -/
  | rejected {got : Nat} {high low code : UInt8} (enough : minimum ≤ got)
      (text : Reply.CodeText ⟨buffer.take got⟩ high low)
      (value : code.toNat = Hex.positional (Hex.leadingDigits [high, low]))
      (nonzero : code ≠ 0x00) :
      Refusal buffer minimum (.ok got) (.rejected (.ofByte code))

section

variable {ε : Type} {read : Except (DriverError ε) Nat} {buffer : Bytes} {minimum : Nat}

/-- What was read is accepted, or there is a reason not to. -/
theorem accepted_or_refusal (read : Except (DriverError ε) Nat) (buffer : Bytes) (minimum : Nat) :
    (∃ reply, accept read buffer minimum = .ok reply) ∨
      ∃ error, Refusal buffer minimum read error := by
  cases read with
  | error error => exact .inr ⟨error, .failed error⟩
  | ok got =>
    by_cases enough : minimum ≤ got
    swap
    · exact .inr ⟨_, .short (Nat.not_le.1 enough)⟩
    by_cases whole : 9 ≤ min got buffer.length
    swap
    · exact .inr ⟨_, .noCode enough (Nat.not_le.1 whole)⟩
    obtain ⟨high, low, text⟩ : ∃ high low, Reply.CodeText ⟨buffer.take got⟩ high low := by
      apply Reply.exists_codeText
      rw [List.length_take]
      exact whole
    by_cases success : Hex.leadingByte [high, low] = 0x00
    · refine .inl ⟨⟨buffer.take got⟩, accept_eq_ok_iff.2 ⟨got, rfl, rfl, enough, ?_⟩⟩
      rw [text.returnCode_eq, success]
    · exact .inr ⟨_, .rejected enough text (Hex.toNat_leadingByte (by simp)) success⟩

/-- The reader gives the first reason. -/
theorem Refusal.accept_eq {error : DriverError ε} (refusal : Refusal buffer minimum read error) :
    accept read buffer minimum = .error error := by
  unfold accept
  cases refusal with
  | failed => rfl
  | short few => exact if_pos few
  | @noCode got enough cut =>
    have cut' : (buffer.take got).length < Frame.returnCodeAt + 2 := by
      rw [List.length_take]
      exact cut
    simp only [if_neg (Nat.not_lt.2 enough), Reply.returnCode_of_cut cut']
    rw [List.length_take]
    rfl
  | @rejected got high low code enough text value nonzero =>
    have isCode : Hex.leadingByte [high, low] = code := by
      rw [← UInt8.toNat_inj, Hex.toNat_leadingByte (by simp), value]
    have rejects : ReturnCode.ofByte code ≠ .ok := by
      intro success
      exact nonzero (ReturnCode.ofByte_eq_ok_iff.1 success)
    -- The branch of a rejection is taken by `rejects`.
    simp only [if_neg (Nat.not_lt.2 enough), text.returnCode_eq, isCode]

/-- It is refused exactly if there is a reason to, and the error names the first. -/
theorem accept_eq_error_iff {error : DriverError ε} :
    accept read buffer minimum = .error error ↔ Refusal buffer minimum read error := by
  constructor
  · intro refused
    rcases accepted_or_refusal read buffer minimum with ⟨reply, accepted⟩ | ⟨other, refusal⟩
    · rw [accepted] at refused
      cases refused
    · rw [refusal.accept_eq, Except.error.injEq] at refused
      exact refused ▸ refusal
  · exact Refusal.accept_eq

end

/-! ## Requests -/

/-- A check lets a reply pass unchanged if it is intact, or if the settings are not strict. -/
theorem checked_eq_ok_iff {ε : Type} {strict : Bool} {reply reply' : Reply} :
    checked strict reply = (.ok reply' : Except (DriverError ε) Reply) ↔
      reply = reply' ∧ (strict = true → reply.verify = .ok ()) := by
  unfold checked
  cases strict with
  | false => simp
  | true =>
    rw [if_pos rfl]
    cases verdict : reply.verify with
    | ok _ => simp
    | error fault => simp

/-- A check fails only with strict settings, with the fault of the reply. -/
theorem checked_eq_error_iff {ε : Type} {strict : Bool} {reply : Reply} {error : DriverError ε} :
    checked strict reply = .error error ↔
      ∃ fault, strict = true ∧ reply.verify = .error fault ∧ error = .frame fault := by
  unfold checked
  cases strict with
  | false => simp
  | true =>
    rw [if_pos rfl]
    cases verdict : reply.verify with
    | ok _ => simp
    | error fault => simp [eq_comm]

namespace Line

variable {τ ε : Type} {size : Nat} [Link τ ε]

/-- The exchange of a command brings a reply that is accepted. -/
def Accepts (line : Line τ size) (config : Config) (command : Command) (payload : Bytes)
    (minimumInfo : Nat) (reply : Reply) : Prop :=
  ∃ got line', line.exchange config command payload = (.ok got, line') ∧
    reply = line'.reply got ∧ Accepted config minimumInfo got reply

/-- A reply is what the last call of its exchange received. -/
theorem received_of_exchange {line line' : Line τ size} {config : Config} {command : Command}
    {payload : Bytes} {got : Nat}
    (exchanged : line.exchange config command payload = (.ok got, line')) :
    got ≠ 0 ∧ ∃ link, Link.receive line.buffer config.timeoutMillis link =
      (.ok got, line'.buffer, line'.link) := by
  unfold exchange sendAndAwait await at exchanged
  repeat' split at exchanged
  all_goals cases exchanged
  -- Of all the ways out only the last has a reply.
  next received nonzero => exact ⟨nonzero, _, received⟩

/-- A request is an exchange and two tests of what it brings. -/
theorem request_eq (line : Line τ size) (config : Config) (command : Command) (payload : Bytes)
    (minimumInfo : Nat) :
    line.request config command payload minimumInfo =
      ((accept (line.exchange config command payload).1
          (line.exchange config command payload).2.buffer.contents
          (Frame.headerLength + minimumInfo)).bind (checked config.strict),
        (line.exchange config command payload).2) := rfl

/-- With enough bytes and the return code of success, a request comes to the check of the reply. -/
theorem request_of_success {line line' : Line τ size} {config : Config} {command : Command}
    {payload : Bytes} {minimumInfo got : Nat}
    (exchanged : line.exchange config command payload = (.ok got, line'))
    (enough : Frame.headerLength + minimumInfo ≤ got)
    (success : (line'.reply got).returnCode = .ok 0x00) :
    line.request config command payload minimumInfo =
      (checked config.strict (line'.reply got), line') := by
  have accepted : accept (.ok got : Except (DriverError ε) Nat) line'.buffer.contents
      (Frame.headerLength + minimumInfo) = .ok (line'.reply got) :=
    accept_eq_ok_iff.2 ⟨got, rfl, rfl, enough, success⟩
  rw [request_eq, exchanged, accepted]
  rfl

/-- An exchange does not ask whether replies are checked. -/
theorem exchange_withStrict (strict : Bool) (line : Line τ size) (config : Config)
    (command : Command) (payload : Bytes) :
    line.exchange (config.withStrict strict) command payload =
      line.exchange config command payload := rfl

/-- A request comes out well exactly if its exchange brings a reply that is accepted. -/
theorem request_eq_ok_iff {line : Line τ size} {config : Config} {command : Command}
    {payload : Bytes} {minimumInfo : Nat} {reply : Reply} :
    (line.request config command payload minimumInfo).1 = .ok reply ↔
      line.Accepts config command payload minimumInfo reply := by
  constructor
  · intro answered
    unfold request at answered
    unfold Accepts
    generalize line.exchange config command payload = exchanged at answered ⊢
    obtain ⟨read, line'⟩ := exchanged
    cases accepted : accept read line'.buffer.contents (Frame.headerLength + minimumInfo) with
    | error error => simp [accepted, Except.bind] at answered
    | ok first =>
      simp only [accepted, Except.bind] at answered
      obtain ⟨rfl, intact⟩ := checked_eq_ok_iff.1 answered
      obtain ⟨got, rfl, rfl, enough, success⟩ := accept_eq_ok_iff.1 accepted
      exact ⟨got, line', rfl, rfl, enough, success, intact⟩
  · rintro ⟨got, line', exchanged, rfl, enough, success, intact⟩
    rw [request_of_success exchanged enough success]
    exact checked_eq_ok_iff.2 ⟨rfl, intact⟩

end Line

end UpsTelemetry
