import UpsTelemetry.Proofs.Bench.SimulatedUps
import UpsTelemetry.Proofs.Driver.Attempts
import UpsTelemetry.Proofs.Driver.Exchange
import UpsTelemetry.Proofs.Driver.Session
import UpsTelemetry.Proofs.Driver.Traced
import UpsTelemetry.Proofs.Link.Filling
import UpsTelemetry.Proofs.Telemetry.Report
import UpsTelemetry.Sink.Recorder

/-!
# Identification takes its answer from one attempt

All attempts of an identification receive into one buffer, which is not cleared in between. Over a
link that fills what it reports this does not show: every attempt comes to what it would come to by
itself, with a fresh buffer (`Driver.answer`).

* `Reply.Identifies`: what is asked of an answer. `Unidentified`: why another is refused.
* `Driver.identify_of_identifies`: the first answer that identifies is the result.
* `Driver.identify_of_none`: if there is none, the last answer says why.
* `Session.identification_by_one_attempt`: both of a session, with the exchanges that are made.
-/

namespace UpsTelemetry

variable {τ ε σ : Type} {size : Nat}

/-! ## Answers -/

/-- The reply tells who the UPS is: it is long enough for a model name and, with strict settings,
intact. -/
structure Reply.Identifies (config : Config) (reply : Reply) : Prop where
  /-- There are enough bytes for a model name. -/
  enough : VendorInfo.minimumLength ≤ reply.raw.length
  /-- With strict settings, the frame is intact. -/
  intact : config.strict = true → reply.verify = .ok ()

/-- The reason for which what came of an attempt does not identify the UPS. -/
inductive Unidentified (config : Config) : Except (DriverError ε) Reply → DriverError ε → Prop
  /-- No reply came. -/
  | failed (error : DriverError ε) : Unidentified config (.error error) error
  /-- The reply is too short. -/
  | short {reply : Reply} (some : 0 < reply.raw.length)
      (few : reply.raw.length < VendorInfo.minimumLength) :
      Unidentified config (.ok reply) (.insufficientIdentification reply.raw.length)
  /-- The reply is long enough, but it is not intact and that matters. -/
  | damaged {reply : Reply} {fault : FrameError} (strict : config.strict = true)
      (enough : VendorInfo.minimumLength ≤ reply.raw.length)
      (fails : reply.verify = .error fault) :
      Unidentified config (.ok reply) (.frame fault)

/-- A reply that came identifies the UPS, or there is a reason why not. -/
theorem Reply.identifies_or_unidentified (config : Config) {reply : Reply}
    (some : 0 < reply.raw.length) :
    reply.Identifies config ∨ ∃ error : DriverError ε, Unidentified config (.ok reply) error := by
  by_cases enough : VendorInfo.minimumLength ≤ reply.raw.length
  swap
  · exact .inr ⟨_, .short some (Nat.not_le.1 enough)⟩
  cases strict : config.strict with
  | false => exact .inl ⟨enough, by simp [strict]⟩
  | true =>
    cases verdict : reply.verify with
    | ok _ => exact .inl ⟨enough, fun _ => verdict⟩
    | error fault => exact .inr ⟨_, .damaged strict enough verdict⟩

/-- The model name of a long reply is the text in its first twenty characters of INFO. -/
theorem VendorInfo.model_eq {reply : Reply} (long : minimumLength ≤ reply.raw.length) :
    model reply = .ok (Padded.text 10 ((reply.raw.drop 13).take 20)) := by
  have fits : (Field.mk modelAt modelWidth).Fits reply := Nat.le_trans (by decide) long
  unfold model Reply.text
  rw [Reply.info_of_fits fits]
  rfl

variable [Link τ ε]

namespace Driver

/-- One exchange of identification by itself, with a fresh buffer: the reply that it brings, and the
link that it leaves. -/
def ask (config : Config) (size : Nat) (link : τ) : Except (DriverError ε) Reply × τ :=
  let exchanged := (Line.fresh link size).exchange config .readVendorInfo []
  (exchanged.1.map exchanged.2.reply, exchanged.2.link)

/-- The link after so many exchanges of identification, each by itself. -/
def linkAfter (driver : Driver τ size) (count : Nat) : τ :=
  stateBefore (ask driver.config size) count driver.link

/-- What the UPS answers to the exchange after so many others. -/
def answer (driver : Driver τ size) (count : Nat) : Except (DriverError ε) Reply :=
  (ask driver.config size (driver.linkAfter count)).1

/-! ## One attempt -/

section attempt

variable (fills : Link.Fills τ size) (config : Config) (line : Line τ size)

include fills

/-- The exchange of an attempt is alike to one by itself. -/
theorem exchange_alike_fresh :
    Line.RepliedAlike (line.exchange config .readVendorInfo [])
      ((Line.fresh line.link size).exchange config .readVendorInfo []) :=
  Line.exchange_alike fills config line.link line.buffer (.zeros size) .readVendorInfo []

/-- An attempt leaves the link that an exchange by itself leaves. -/
theorem identifyOnce_link :
    (identifyOnce config line).2.link = (ask config size line.link).2 := by
  rw [identifyOnce_line]
  exact (exchange_alike_fresh fills config line).link_eq

/-- So do any number of them. -/
theorem stateBefore_identifyOnce (count : Nat) :
    (stateBefore (identifyOnce config) count line).link =
      stateBefore (ask config size) count line.link := by
  induction count generalizing line with
  | zero => rfl
  | succ count ih => rw [stateBefore, stateBefore, ih, identifyOnce_link fills]

/-- If an exchange fails by itself, the attempt fails in the same way. -/
theorem exchange_of_unanswered {error : DriverError ε}
    (unanswered : (ask config size line.link).1 = .error error) :
    (line.exchange config .readVendorInfo []).1 = .error error := by
  have alike := exchange_alike_fresh fills config line
  unfold ask at unanswered
  rw [alike.outcome_eq]
  cases came : ((Line.fresh line.link size).exchange config .readVendorInfo []).1 with
  | error other =>
    simp only [came, Except.map, Except.error.injEq] at unanswered
    rw [unanswered]
  | ok got =>
    simp only [came, Except.map] at unanswered
    cases unanswered

/-- A reply that an exchange brings by itself is the reply of the attempt. -/
theorem exchange_of_answered {reply : Reply}
    (answered : (ask config size line.link).1 = .ok reply) :
    0 < reply.raw.length ∧ ∃ line',
      line.exchange config .readVendorInfo [] = (.ok reply.raw.length, line') ∧
        line'.reply reply.raw.length = reply := by
  have alike := exchange_alike_fresh fills config line
  unfold ask at answered
  generalize line.exchange config .readVendorInfo [] = exchanged at alike ⊢
  generalize (Line.fresh line.link size).exchange config .readVendorInfo [] = fresh
    at alike answered
  obtain ⟨got, came, rfl⟩ := map_eq_ok_iff.1 answered
  have came' := alike.outcome_eq.trans came
  obtain ⟨some, inside⟩ := alike.within got came'
  have length_reply : (fresh.2.reply got).raw.length = got := by
    show (ReceiveBuffer.received _ got).length = got
    rw [ReceiveBuffer.length_received, Nat.min_eq_left inside]
  rw [length_reply]
  exact ⟨some, exchanged.2, Prod.ext came' rfl, alike.reply_eq got came'⟩

/-- An answer that identifies is what its attempt comes to. -/
theorem identifyOnce_of_identifies {reply : Reply}
    (answered : (ask config size line.link).1 = .ok reply) (identifies : reply.Identifies config) :
    ∃ line',
      identifyOnce config line = ((.ok reply.raw.length : Except (DriverError ε) Nat), line') ∧
        line'.reply reply.raw.length = reply := by
  obtain ⟨-, line', exchanged, received⟩ := exchange_of_answered fills config line answered
  refine ⟨line', ?_, received⟩
  have passes : (checked config.strict reply : Except (DriverError ε) Reply) = .ok reply :=
    checked_eq_ok_iff.2 ⟨rfl, identifies.intact⟩
  unfold identifyOnce
  rw [exchanged]
  dsimp only
  rw [if_pos identifies.enough, received, passes]
  rfl

/-- An answer that does not identify is the failure of its attempt, if that attempt decides. -/
theorem identifyOnce_of_unidentified {error : DriverError ε}
    (refused : Unidentified config (ask config size line.link).1 error) :
    ¬ ComesOutGood (identifyOnce config) identifies line ∧
      (identifyOnce config line).1.bind (identityOf config (identifyOnce config line).2) =
        .error error := by
  generalize answered : (ask config size line.link).1 = answer at refused
  -- Either the attempt fails with the error, or it counts too few bytes.
  have fails_or_short : (identifyOnce config line).1 = .error error ∨
      ∃ got < VendorInfo.minimumLength, (identifyOnce config line).1 = .ok got ∧
        error = .insufficientIdentification got := by
    unfold identifyOnce
    cases refused with
    | failed =>
      left
      rw [← Prod.eta (line.exchange config .readVendorInfo []),
        exchange_of_unanswered fills config line answered]
    | @short reply some few =>
      obtain ⟨-, line', exchanged, -⟩ := exchange_of_answered fills config line answered
      refine .inr ⟨_, few, ?_, rfl⟩
      rw [exchanged]
      dsimp only
      rw [if_neg (Nat.not_le.2 few)]
    | @damaged reply fault strict enough fails =>
      obtain ⟨-, line', exchanged, received⟩ := exchange_of_answered fills config line answered
      left
      rw [exchanged]
      dsimp only
      have refused : (checked config.strict reply : Except (DriverError ε) Reply) =
          .error (.frame fault) :=
        checked_eq_error_iff.2 ⟨fault, strict, fails, rfl⟩
      rw [if_pos enough, received, refused]
      rfl
  rcases fails_or_short with fails | ⟨got, few, came, rfl⟩
  · rw [fails]
    refine ⟨?_, rfl⟩
    rintro ⟨got, came, -⟩
    rw [fails] at came
    cases came
  · rw [came]
    refine ⟨?_, if_pos few⟩
    rintro ⟨got', came', enough⟩
    rw [came, Except.ok.injEq] at came'
    subst came'
    exact absurd (of_decide_eq_true enough) (Nat.not_le.2 few)

/-- An attempt comes out as good if its answer identifies. -/
theorem comesOutGood_identifyOnce_iff :
    ComesOutGood (identifyOnce config) identifies line ↔
      ∃ reply, (ask config size line.link).1 = .ok reply ∧ reply.Identifies config := by
  constructor
  · intro good
    cases answered : (ask config size line.link).1 with
    | error error =>
      have refused : Unidentified config (.error error) error := .failed error
      rw [← answered] at refused
      exact absurd good (identifyOnce_of_unidentified fills config line refused).1
    | ok reply =>
      have some := (exchange_of_answered fills config line answered).1
      rcases reply.identifies_or_unidentified config some with identifies | ⟨error, refused⟩
      · exact ⟨reply, rfl, identifies⟩
      · rw [← answered] at refused
        exact absurd good (identifyOnce_of_unidentified fills config line refused).1
  · rintro ⟨reply, answered, identifies⟩
    obtain ⟨line', came, -⟩ := identifyOnce_of_identifies fills config line answered identifies
    exact ⟨_, congrArg Prod.fst came, decide_eq_true identifies.enough⟩

end attempt

/-! ## All attempts -/

section attempts

variable {driver : Driver τ size} (fills : Link.Fills τ size) {count : Nat}

/-- One more attempt is one more question to the link. -/
theorem linkAfter_succ (driver : Driver τ size) (count : Nat) :
    driver.linkAfter (count + 1) = (ask driver.config size (driver.linkAfter count)).2 :=
  stateBefore_succ _ count driver.link

include fills

/-- The attempt after so many others asks the link that they leave. -/
theorem ask_stateBefore (driver : Driver τ size) (count : Nat) :
    ask driver.config size (stateBefore (identifyOnce driver.config) count
      (Line.fresh driver.link size)).link = ask driver.config size (driver.linkAfter count) := by
  rw [stateBefore_identifyOnce fills]
  rfl

/-- The first answer that identifies the UPS, if it is asked for so often, is what identification
comes to. -/
theorem identify_of_identifies (allowed : count < max driver.config.attempts 1)
    (first : ∀ earlier < count, ∀ reply,
      driver.answer earlier = .ok reply → ¬ reply.Identifies driver.config)
    {reply : Reply} (answered : driver.answer count = .ok reply)
    (identifies : reply.Identifies driver.config) :
    driver.identify =
      (.ok (identityEvents (Padded.text 10 ((reply.raw.drop 13).take 20)) driver.config.address),
        { driver with link := driver.linkAfter (count + 1), state := .parameters }) := by
  have asked := ask_stateBefore fills driver
  have answered' := answered
  unfold answer at answered'
  rw [← asked] at answered'
  obtain ⟨line', came, received⟩ := identifyOnce_of_identifies fills _ _ answered' identifies
  have decides : Decides driver.config.attempts (identifyOnce driver.config) Driver.identifies
      (Line.fresh driver.link size) count := by
    refine ⟨allowed, fun earlier before good => ?_, .inl ?_⟩
    · obtain ⟨other, answer, good⟩ := (comesOutGood_identifyOnce_iff fills _ _).1 good
      rw [asked] at answer
      exact first earlier before other answer good
    · exact (comesOutGood_identifyOnce_iff fills _ _).2 ⟨reply, answered', identifies⟩
  have left : line'.link = driver.linkAfter (count + 1) := by
    rw [linkAfter_succ, ← asked, ← identifyOnce_link fills, came]
  have named : VendorInfo.model (line'.reply reply.raw.length) =
      .ok (Padded.text 10 ((reply.raw.drop 13).take 20)) := by
    rw [received]
    exact VendorInfo.model_eq identifies.enough
  rw [identify_of_long decides came identifies.enough named, left]
  rfl

/-- If no answer identifies the UPS, the last one is why identification fails. -/
theorem identify_of_none
    (none : ∀ count < max driver.config.attempts 1, ∀ reply,
      driver.answer count = .ok reply → ¬ reply.Identifies driver.config) :
    ∃ error, Unidentified driver.config (driver.answer (max driver.config.attempts 1 - 1)) error ∧
      driver.identify = (.error error,
        { driver with link := driver.linkAfter (max driver.config.attempts 1) }) := by
  have asked := ask_stateBefore fills driver
  obtain ⟨last, length⟩ : ∃ last, max driver.config.attempts 1 = last + 1 :=
    ⟨max driver.config.attempts 1 - 1, by omega⟩
  rw [length, Nat.add_sub_cancel]
  rw [length] at none
  obtain ⟨error, refused⟩ : ∃ error, Unidentified driver.config (driver.answer last) error := by
    cases answered : driver.answer last with
    | error error => exact ⟨error, .failed error⟩
    | ok reply =>
      have some := (exchange_of_answered fills _ (Line.fresh (driver.linkAfter last) size)
        answered).1
      rcases reply.identifies_or_unidentified driver.config some with identifies | refused
      · exact absurd identifies (none last (Nat.lt_succ_self _) reply answered)
      · exact refused
  refine ⟨error, refused, ?_⟩
  have decides : Decides driver.config.attempts (identifyOnce driver.config) Driver.identifies
      (Line.fresh driver.link size) last := by
    refine ⟨by omega, fun earlier before good => ?_, .inr length.symm⟩
    obtain ⟨reply, answer, identifies⟩ := (comesOutGood_identifyOnce_iff fills _ _).1 good
    rw [asked] at answer
    exact none earlier (by omega) reply answer identifies
  have left := identifyOnce_link fills driver.config
    (stateBefore (identifyOnce driver.config) last (Line.fresh driver.link size))
  unfold answer at refused
  rw [← asked] at refused
  rw [asked, ← linkAfter_succ] at left
  have fails := (identifyOnce_of_unidentified fills _ _ refused).2
  generalize came : identifyOnce driver.config
    (stateBefore (identifyOnce driver.config) last (Line.fresh driver.link size)) = result
    at left fails
  rw [identify_of_decides decides came, fails, left]

end attempts

/-! ## The exchanges -/

/-- The frame that asks a UPS who it is. -/
def identificationFrame (config : Config) : Bytes :=
  Frame.sealed (Frame.requestHeader .readVendorInfo .current config.address) []

/-- An exchange comes to the same with a record and without. -/
theorem ask_untraced (config : Config) (link : TracedLink τ ε) :
    ask config size link.link = Prod.map id TracedLink.link (ask config size link) := by
  unfold ask
  rw [← Line.fresh_untraced, Line.exchange_untraced]
  rfl

/-- A record of the calls changes nothing of the link. -/
theorem linkAfter_untraced (driver : Driver (TracedLink τ ε) size) (count : Nat) :
    driver.untraced.linkAfter count = (driver.linkAfter count).link := by
  induction count with
  | zero => rfl
  | succ count ih =>
    rw [linkAfter_succ, linkAfter_succ, ih]
    exact congrArg Prod.snd (ask_untraced driver.config (driver.linkAfter count))

/-- The answers are the same with a record and without. -/
theorem answer_untraced (driver : Driver (TracedLink τ ε) size) (count : Nat) :
    driver.untraced.answer count = driver.answer count := by
  unfold answer
  rw [linkAfter_untraced]
  exact congrArg Prod.fst (ask_untraced driver.config (driver.linkAfter count))

/-- An attempt at identification is one exchange. -/
theorem identifyOnce_calls (config : Config) (line : Line (TracedLink τ ε) size) :
    ∃ outcome calls,
      ExchangeCalls size config.timeoutMillis (identificationFrame config) outcome calls ∧
        (identifyOnce config line).2.link.calls = line.link.calls ++ calls := by
  have built : Frame.request? Frame.requestCapacity .readVendorInfo .current config.address [] =
      .ok (identificationFrame config) := Frame.request?_of_fits (by decide)
  obtain ⟨calls, made, recorded⟩ := line.exchange_calls built
  rw [identifyOnce_line]
  exact ⟨_, calls, made, recorded⟩

/-- A record shows as many exchanges as attempts. -/
theorem exchanges_linkAfter (fills : Link.Fills (TracedLink τ ε) size)
    (driver : Driver (TracedLink τ ε) size) (count : Nat) :
    ∃ calls, Exchanges size driver.config.timeoutMillis (identificationFrame driver.config) count
        calls ∧
      (driver.linkAfter count).calls = driver.link.calls ++ calls := by
  have recorded := exchanges_stateBefore (identifyOnce_calls driver.config) count
    (Line.fresh driver.link size)
  rw [stateBefore_identifyOnce fills] at recorded
  exact recorded

end Driver

/-! ## Sessions -/

namespace Session

variable [TelemetrySink σ]

/-- **Identification takes its answer from one attempt.** Over a link that fills what it reports,
every attempt is one exchange and comes to what that exchange comes to with a fresh buffer: nothing
that an earlier reply left in the buffer matters. The first answer that is long enough and, with
strict settings, intact is the result; no more attempts are made, the host is told the maker, the
model of this answer and the address, and the parameters are polled next. If there is none among as
many as are allowed, but at least one, the host is told nothing, the state is kept, and the last
answer says why. -/
theorem identification_by_one_attempt (session : Session (TracedLink τ ε) σ size)
    (fills : Link.Fills τ size) :
    let driver := session.driver
    let attempts := max driver.config.attempts 1
    let frame := Driver.identificationFrame driver.config
    let identified (count : Nat) := ∃ reply, driver.answer count = .ok reply ∧
      reply.Identifies driver.config
    session.untraced.perform .identify = Prod.map id untraced (session.perform .identify) ∧
    (∀ count, ∃ calls, Exchanges size driver.config.timeoutMillis frame count calls ∧
      (driver.linkAfter count).calls = driver.link.calls ++ calls) ∧
    (∀ count < attempts, (∀ earlier < count, ¬ identified earlier) →
      ∀ reply, driver.answer count = .ok reply → reply.Identifies driver.config →
        let events : List SinkEvent := [.set "ups.mfr" "EmersonNetworkPower",
          .set "ups.model" (Padded.text 10 ((reply.raw.drop 13).take 20)),
          .set "ups.id" driver.config.address.text]
        session.perform .identify = (⟨.identified (.ok ()), events⟩,
          ⟨{ driver with link := driver.linkAfter (count + 1), state := .parameters },
            TelemetrySink.emit events session.sink⟩)) ∧
    ((∀ count < attempts, ¬ identified count) →
      ∃ error, Unidentified driver.config (driver.answer (attempts - 1)) error ∧
        session.perform .identify = (⟨.identified (.error error), []⟩,
          ⟨{ driver with link := driver.linkAfter attempts }, session.sink⟩)) := by
  intro driver attempts frame identified
  have fills : Link.Fills (TracedLink τ ε) size := fills.traced
  refine ⟨perform_untraced .identify session, Driver.exchanges_linkAfter fills driver,
    fun count allowed first reply answered identifies => ?_, fun none => ?_⟩
  · apply perform_identify_of_ok
    apply Driver.identify_of_identifies fills allowed ?_ answered identifies
    intro earlier before other answer good
    exact first earlier before ⟨other, answer, good⟩
  · obtain ⟨error, refused, failed⟩ := Driver.identify_of_none fills
      fun count allowed reply answer good => none count allowed ⟨reply, answer, good⟩
    exact ⟨error, refused, perform_identify_of_error failed⟩

end Session

/-! ## A simulated UPS -/

namespace SimulatedUps

/-- What a simulated UPS answers with a reply. An empty one is no answer. -/
def answerOf (size : Nat) (reply : Bytes) : Except (DriverError SimulatedFault) Reply :=
  if (SerialLink.taken reply size).length = 0 then .error .timeout
  else .ok ⟨SerialLink.taken reply size⟩

variable {ups : SimulatedUps}

/-- A simulated UPS that has room for the frame answers with the next reply. -/
theorem ask_eq (reads : ups.readFails = false) (writes : ups.writeFails = false) (config : Config)
    (fits : ups.written.length + 18 ≤ writtenCapacity) (size : Nat) :
    ∃ unread, Driver.ask config size (⟨ups⟩ : SerialLink SimulatedUps) =
      (answerOf size (ups.replies.headD []),
        ⟨ups.answered (Driver.identificationFrame config) unread⟩) := by
  have built : Frame.request? Frame.requestCapacity .readVendorInfo .current config.address [] =
      .ok (Driver.identificationFrame config) := Frame.request?_of_fits (by decide)
  obtain ⟨buffer, unread, exchanged, received⟩ :=
    exchange_eq reads writes built fits (.zeros size)
  refine ⟨unread, ?_⟩
  unfold Driver.ask answerOf
  rw [show Line.fresh (⟨ups⟩ : SerialLink SimulatedUps) size = ups.line (.zeros size) from rfl,
    exchanged]
  dsimp only
  split
  · rfl
  · refine Prod.ext ?_ rfl
    exact congrArg (Except.ok ∘ Reply.mk) received

/-- With room for so many frames it answers with the replies in their order, and not any more once
there are none left. -/
theorem answer_eq (reads : ups.readFails = false) (writes : ups.writeFails = false)
    (config : Config) (state : PollState) (count : Nat)
    (fits : ups.written.length + 18 * (count + 1) ≤ writtenCapacity) :
    (⟨⟨ups⟩, config, state⟩ : Driver (SerialLink SimulatedUps) size).answer count =
      answerOf size (ups.replies.getD count []) := by
  induction count generalizing ups with
  | zero =>
    obtain ⟨unread, asked⟩ := ask_eq reads writes config fits size
    show (Driver.ask config size _).1 = _
    rw [Driver.linkAfter, stateBefore, asked]
    cases ups.replies <;> rfl
  | succ count ih =>
    obtain ⟨unread, asked⟩ := ask_eq reads writes config (by omega) size
    have room : (ups.answered (Driver.identificationFrame config) unread).written.length +
        18 * (count + 1) ≤ writtenCapacity := by
      have length_frame : (Driver.identificationFrame config).length = 18 := rfl
      show (ups.written ++ Driver.identificationFrame config).length + _ ≤ _
      rw [List.length_append, length_frame]
      omega
    have later := @ih (ups.answered (Driver.identificationFrame config) unread) reads writes room
    show (Driver.ask config size (stateBefore (Driver.ask config size) count
      (Driver.ask config size (⟨ups⟩ : SerialLink SimulatedUps)).2)).1 = _
    rw [asked]
    refine later.trans (congrArg (answerOf size) ?_)
    show ups.replies.tail.getD count [] = ups.replies.getD (count + 1) []
    cases ups.replies <;> rfl

end SimulatedUps

namespace Session

/-- A UPS that answers with too little and then with its name is identified by its second answer,
and one that says nothing is not. -/
theorem identification_by_one_attempt_of_simulated :
    let short : Bytes := SimulatedUps.reply 0x00 []
    let named : Bytes := SimulatedUps.reply 0x00 (SimulatedUps.infoWith 22
      [(0, [0x34, 0x37, 0x35, 0x38, 0x34, 0x35])])
    let session : List Bytes →
        Session (TracedLink (SerialLink SimulatedUps) SimulatedFault) Recorder
          standardBufferSize :=
      fun replies => ⟨.new ⟨⟨{ replies }⟩, []⟩ .standard, .empty⟩
    Link.Fills (SerialLink SimulatedUps) standardBufferSize ∧
      ((session [short, named]).perform .identify).1 = ⟨.identified (.ok ()),
        [.set "ups.mfr" "EmersonNetworkPower", .set "ups.model" "GXE", .set "ups.id" "01"]⟩ ∧
      ((session []).perform .identify).1 = ⟨.identified (.error .timeout), []⟩ := by
  intro short named session
  have fills : Link.Fills (SerialLink SimulatedUps) standardBufferSize :=
    SerialLink.fills SimulatedUps standardBufferSize
  have answers : ∀ replies, ∀ count < 3, (session replies).driver.answer count =
      SimulatedUps.answerOf standardBufferSize (replies.getD count []) := by
    intro replies count allowed
    rw [← Driver.answer_untraced]
    apply SimulatedUps.answer_eq rfl rfl
    show 0 + 18 * (count + 1) ≤ 1024
    omega
  refine ⟨fills, ?_, ?_⟩
  · have tooShort : SimulatedUps.answerOf standardBufferSize short = .ok ⟨short⟩ := by
      decide +kernel
    have enough : SimulatedUps.answerOf standardBufferSize named = .ok ⟨named⟩ := by
      decide +kernel
    have identifies : Reply.Identifies .standard ⟨named⟩ :=
      ⟨by decide, fun _ => by decide +kernel⟩
    have model : Padded.text 10 ((named.drop 13).take 20) = "GXE" := by decide +kernel
    obtain ⟨-, -, first, -⟩ := identification_by_one_attempt (session [short, named]) fills
    have performed := first 1 (by decide) ?_ ⟨named⟩ ((answers _ 1 (by decide)).trans enough)
      identifies
    · rw [performed]
      dsimp only
      rw [model]
      rfl
    · rintro earlier before ⟨reply, answered, good⟩
      obtain rfl : earlier = 0 := by omega
      have came := (answers [short, named] 0 (by decide)).symm.trans answered
      rw [List.getD_cons_zero, tooShort, Except.ok.injEq] at came
      subst came
      exact absurd good.enough (by decide)
  · have silent : ∀ count < 3, (session []).driver.answer count = .error .timeout := by
      intro count allowed
      exact answers [] count allowed
    obtain ⟨-, -, -, last⟩ := identification_by_one_attempt (session []) fills
    obtain ⟨error, refused, performed⟩ := last fun count allowed ⟨reply, answered, _⟩ => by
      rw [silent count allowed] at answered
      cases answered
    rw [silent _ (by decide)] at refused
    cases refused
    rw [performed]

end Session

end UpsTelemetry
