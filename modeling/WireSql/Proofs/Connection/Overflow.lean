import WireSql.Proofs.Connection.Fragmentation
import WireSql.Proofs.Connection.Reply
import WireSql.Proofs.Introspection.Questions
import WireSql.Proofs.Wire.Sending

/-!
# `WireSql.Proofs.Connection.Overflow`: replies over the cap

The cap of a connection is on frames in both directions, and a reply may be longer than its request. A reply
with a frame over the cap cannot be sent: the connection ends, and no byte of the reply is written.

`Course` lists the ways in which a connection can go on from any point, without a word about reads, pending
bytes or folds. What one frame comes to (`step_cases`) makes one step of a course, the frames of a read make
a course by induction (`Serving.hasTaken_foldl`), and so does a stream, wherever it is cut
(`hasTaken_serve`).

Main statement: `own_output`. A connection breaks over what it has to say exactly if its greeting or a
reply has a frame over the cap; and whatever the cap, a client can ask for a reply over it
(`exists_failing`).
-/

namespace WireSql.Connection

open Wire (Codec)

variable {σ : Type} {backend : Backend σ}

/-! ## Courses -/

/-- **The course of a connection**: the bytes it writes from a point on, how it ends and what it leaves
behind, over the frames of a stream that are left. `failure` is what keeps a further frame from being taken
off the stream, if anything does. -/
inductive Course (backend : Backend σ) (codec : Codec) (failure : Option FramingError) :
    Connection × σ → List Wire.Frame → Bytes → Ending → Connection × σ → Prop where
  /-- The client has no more to say. -/
  | left (p : Connection × σ) (h : failure = none) : Course backend codec failure p [] [] .clientLeft p
  /-- The client announces a frame over the cap. -/
  | refused (p : Connection × σ) {e : FramingError} (h : failure = some e) :
      Course backend codec failure p [] [] (.failed e) p
  /-- A frame is answered with one whole reply within the cap, and the connection goes on. -/
  | answered {p p' last : Connection × σ} {frame : Wire.Frame} {later replies : List Wire.Frame}
      {bytes : Bytes} {ending : Ending}
      (hstep : onFrame backend p.1 p.2 frame = (.ok { frames := replies }, p'))
      (hreply : Wire.IsReply p'.1.session.capabilities (frame.sequence + 1) replies)
      (hholds : codec.Holds replies) (hlater : Course backend codec failure p' later bytes ending last) :
      Course backend codec failure p (frame :: later) (replies.flatMap Wire.Frame.encode ++ bytes) ending
        last
  /-- A client that is logged in commands the end. -/
  | quit {p p' : Connection × σ} {frame : Wire.Frame} (later : List Wire.Frame)
      (hstep : onFrame backend p.1 p.2 frame = (.ok { close := true }, p'))
      (hphase : p.1.session.phase = .authenticated) (hcode : frame.payload.head? = some 0x01) :
      Course backend codec failure p (frame :: later) [] .quit p'
  /-- A frame has been answered with one whole reply, of which a frame is over the cap. -/
  | unsendable {p p' : Connection × σ} {frame long : Wire.Frame} {replies : List Wire.Frame}
      (later : List Wire.Frame) (hstep : onFrame backend p.1 p.2 frame = (.ok { frames := replies }, p'))
      (hreply : Wire.IsReply p'.1.session.capabilities (frame.sequence + 1) replies)
      (hover : codec.FirstOver replies long) :
      Course backend codec failure p (frame :: later) [] (.failed ⟨long.payload.length, codec.limit⟩) p'
  | crashed {p p' : Connection × σ} {frame : Wire.Frame} {crash : Introspection.Crash}
      (later : List Wire.Frame) (hstep : onFrame backend p.1 p.2 frame = (.error crash, p')) :
      Course backend codec failure p (frame :: later) [] (.crashed crash) p'

/-- **What one frame comes to**: a crash, the end that a client has commanded, or one whole reply. -/
theorem step_cases (backend : Backend σ) (c : Connection) (state : σ) (frame : Wire.Frame)
    (hopen : c.session.phase ≠ .closed) :
    (∃ crash p', onFrame backend c state frame = (.error crash, p')) ∨
      (∃ p', onFrame backend c state frame = (.ok { close := true }, p') ∧
        c.session.phase = .authenticated ∧ frame.payload.head? = some 0x01) ∨
      ∃ replies p', onFrame backend c state frame = (.ok { frames := replies }, p') ∧
        Wire.IsReply p'.1.session.capabilities (frame.sequence + 1) replies ∧
        p'.1.session.phase ≠ .closed := by
  have hdisciplined : (∃ crash p', onFrame backend c state frame = (.error crash, p')) ∨
      ∃ step c' state', onFrame backend c state frame = (.ok step, c', state') ∧
        Disciplined c frame step c' := by
    cases hp : c.session.phase with
    | closed => exact absurd hp hopen
    | awaitingAuth => exact .inr (disciplined_of_awaitingAuth backend state frame hp)
    | authenticated =>
      by_cases hcrash : ∃ crash, (Command.dispatch backend { c.session with sequence := frame.sequence }
          state frame.payload).reply = .error (.crash crash)
      · obtain ⟨crash, h⟩ := hcrash
        rw [onFrame_of_authenticated hp]
        dsimp only
        rw [h]
        exact .inl ⟨crash, _, rfl⟩
      · exact .inr (disciplined_of_authenticated backend state frame hp fun crash h => hcrash ⟨crash, h⟩)
  rcases hdisciplined with hcrash | ⟨⟨frames, close⟩, c', state', hstep, h⟩
  · exact .inl hcrash
  · cases close with
    | true =>
      obtain rfl : frames = [] := h.silent rfl
      exact .inr (.inl ⟨_, hstep, h.close_iff.1 rfl⟩)
    | false => exact .inr (.inr ⟨frames, _, hstep, h.reply rfl, fun hclosed => nomatch h.closed_iff.1 hclosed⟩)

/-- **Every reply that the frames lead to is within the cap.** -/
def RepliesFit (backend : Backend σ) (codec : Codec) (p : Connection × σ) (frames : List Wire.Frame) : Prop :=
  ∀ earlier frame later step, frames = earlier ++ frame :: later →
    (onFrame backend (run backend p earlier).1 (run backend p earlier).2 frame).1 = .ok step →
      codec.Holds step.frames

/-- **While the replies fit, only the client makes a connection fail**: with a frame that is over the cap
itself. -/
theorem Course.failure_of_repliesFit {codec : Codec} {failure : Option FramingError}
    {p last : Connection × σ} {frames : List Wire.Frame} {bytes : Bytes} {ending : Ending}
    (h : Course backend codec failure p frames bytes ending last) (hfit : RepliesFit backend codec p frames)
    {e : FramingError} (he : ending = .failed e) : failure = some e := by
  induction h with
  | left p h => cases he
  | refused p h => cases he; exact h
  | @answered p p' last frame later replies bytes ending hstep _ _ _ ih =>
    refine ih (fun earlier frame' later' step hframes hstep' => ?_) he
    have hrun : run backend p (frame :: earlier) = run backend p' earlier := by
      rw [run, List.foldl_cons, next, hstep, run]
    exact hfit (frame :: earlier) frame' later' step (congrArg (frame :: ·) hframes) (hrun ▸ hstep')
  | quit later hstep _ _ => cases he
  | @unsendable p p' frame long replies later hstep _ hover =>
    have hholds : codec.Holds replies :=
      hfit [] frame later { frames := replies } rfl (congrArg Prod.fst hstep)
    obtain ⟨before, after, rfl, -, hlong⟩ := hover
    exact absurd (hholds long (List.mem_append_right _ List.mem_cons_self)) (Nat.not_le_of_lt hlong)
  | crashed later hstep => cases he

/-! ## Serving a course -/

namespace Serving

variable {s : Serving σ} {frame long : Wire.Frame} {step : Step} {p' : Connection × σ}

/-- The codec behind a step is that before it. -/
theorem codec_of_onFrame {result : Except Introspection.Crash Step}
    (h : onFrame backend s.connection s.state frame = (result, p')) : codec p'.1.config = s.wire := by
  have hconfig := (onFrame_moves backend s.connection s.state frame).1
  rw [h] at hconfig
  exact congrArg codec hconfig

/-- A step whose frames are within the cap is written. -/
theorem answer_of_holds (hopen : s.ending = none)
    (hstep : onFrame backend s.connection s.state frame = (.ok step, p')) (h : s.wire.Holds step.frames) :
    answer backend s frame =
      { s with
        connection := p'.1
        state := p'.2
        ending := if step.close then some .quit else none
        written := s.written ++ step.frames.flatMap Wire.Frame.encode } := by
  have hsome : ¬ s.ending.isSome = true := by simp [hopen]
  rw [answer, if_neg hsome, hstep]
  dsimp only
  rw [codec_of_onFrame hstep, Codec.encodeAll_of_holds h]

/-- A step with a frame over the cap ends the connection. -/
theorem answer_of_firstOver (hopen : s.ending = none)
    (hstep : onFrame backend s.connection s.state frame = (.ok step, p'))
    (h : s.wire.FirstOver step.frames long) :
    answer backend s frame =
      { s with
        connection := p'.1
        state := p'.2
        ending := some (.failed ⟨long.payload.length, s.wire.limit⟩) } := by
  have hsome : ¬ s.ending.isSome = true := by simp [hopen]
  rw [answer, if_neg hsome, hstep]
  dsimp only
  rw [codec_of_onFrame hstep, Codec.encodeAll_of_firstOver h]

/-- So does a crash. -/
theorem answer_of_crash {crash : Introspection.Crash} (hopen : s.ending = none)
    (hstep : onFrame backend s.connection s.state frame = (.error crash, p')) :
    answer backend s frame =
      { s with connection := p'.1, state := p'.2, ending := some (.crashed crash) } := by
  have hsome : ¬ s.ending.isSome = true := by simp [hopen]
  rw [answer, if_neg hsome, hstep]

/-- **A connection in the middle of its stream has taken a course** behind the point where it was `s`. -/
def HasTaken (backend : Backend σ) (failure : Option FramingError) (s : Serving σ)
    (frames : List Wire.Frame) (t : Serving σ) : Prop :=
  ∃ bytes ending, Course backend s.wire failure (s.connection, s.state) frames bytes ending
      (t.connection, t.state) ∧
    t.written = s.written ++ bytes ∧ t.ending = some ending

/-- An answer that ends the connection ends its course: behind an end nothing changes any more. -/
theorem hasTaken_of_ended {t : Serving σ} {ending : Ending} {frames : List Wire.Frame}
    {failure : Option FramingError} (ht : answer backend s frame = t) (hending : t.ending = some ending)
    (hwritten : t.written = s.written)
    (hcourse : Course backend s.wire failure (s.connection, s.state) (frame :: frames) [] ending
      (t.connection, t.state)) :
    HasTaken backend failure s (frame :: frames)
      ((frames.foldl (answer backend) (answer backend s frame)).fail failure).finish := by
  have hsome : t.ending.isSome = true := by simp [hending]
  rw [ht, foldl_answer_of_ended hsome, fail_of_ended hsome]
  exact ⟨[], ending, hcourse, by simp [finish, hwritten], by simp [finish, hending]⟩

/-- **The frames of a stream, answered one after the other, make a course.** -/
theorem hasTaken_foldl (hopen : s.ending = none) (hphase : s.connection.session.phase ≠ .closed)
    (frames : List Wire.Frame) (failure : Option FramingError) :
    HasTaken backend failure s frames ((frames.foldl (answer backend) s).fail failure).finish := by
  induction frames generalizing s with
  | nil =>
    rw [List.foldl_nil]
    cases failure with
    | none =>
      rw [fail_none]
      exact ⟨[], .clientLeft, .left _ rfl, by simp [finish], by simp [finish, hopen]⟩
    | some e =>
      have hfail : s.fail (some e) = { s with ending := some (.failed e) } := by simp [fail, hopen]
      rw [hfail]
      exact ⟨[], .failed e, .refused _ rfl, by simp [finish], rfl⟩
  | cons frame frames ih =>
    rw [List.foldl_cons]
    rcases step_cases backend s.connection s.state frame hphase with
      ⟨crash, p', hstep⟩ | ⟨p', hstep, hauth, hcode⟩ | ⟨replies, p', hstep, hreply, hphase'⟩
    · exact hasTaken_of_ended (answer_of_crash hopen hstep) rfl rfl (.crashed frames hstep)
    · have hempty : s.wire.Holds ({ close := true } : Step).frames := fun _ h => absurd h List.not_mem_nil
      exact hasTaken_of_ended (answer_of_holds hopen hstep hempty) rfl (by simp) (.quit frames hstep hauth hcode)
    · rcases s.wire.holds_or_firstOver replies with hholds | ⟨long, hover⟩
      · have hanswer := answer_of_holds hopen hstep hholds
        have hwire : (answer backend s frame).wire = s.wire := congrArg codec (config_answer s frame)
        obtain ⟨bytes, ending, hcourse, hwritten, hending⟩ :=
          ih (s := answer backend s frame) (by rw [hanswer]; rfl) (by rw [hanswer]; exact hphase')
        generalize ((frames.foldl (answer backend) (answer backend s frame)).fail failure).finish = t
          at hcourse hwritten hending ⊢
        rw [hwire, hanswer] at hcourse
        rw [hanswer] at hwritten
        exact ⟨replies.flatMap Wire.Frame.encode ++ bytes, ending, .answered hstep hreply hholds hcourse,
          by rw [hwritten, List.append_assoc], hending⟩
      · exact hasTaken_of_ended (answer_of_firstOver hopen hstep hover) rfl rfl (.unsendable frames hstep hreply hover)

/-- The bytes that are no whole frame yet are no part of a course. -/
theorem HasTaken.of_observed {failure : Option FramingError} {frames : List Wire.Frame} {t t' : Serving σ}
    (h : HasTaken backend failure s frames t) (ht : t'.observed = t.observed) :
    HasTaken backend failure s frames t' := by
  obtain ⟨connection, state, pending, written, ending⟩ := t
  obtain ⟨connection', state', pending', written', ending'⟩ := t'
  cases ht
  exact h

theorem observed_fail (s : Serving σ) (pending : Bytes) (failure : Option FramingError) :
    (({ s with pending } : Serving σ).fail failure).observed = (s.fail failure).observed := by
  unfold fail
  dsimp only
  split <;> rfl

/-! ## Greetings -/

theorem greet_of_le {c : Connection} (h : c.start.1.payload.length ≤ (codec c.config).limit) (state : σ) :
    greet c state = { connection := c.start.2, state, written := c.start.1.encode } := by
  unfold greet
  dsimp only
  rw [Codec.encode_of_le h]

theorem greet_of_lt {c : Connection} (h : (codec c.config).limit < c.start.1.payload.length) (state : σ) :
    greet c state =
      { connection := c.start.2
        state
        ending := some (.failed ⟨c.start.1.payload.length, (codec c.config).limit⟩) } := by
  unfold greet
  dsimp only
  rw [Codec.encode_of_lt h]

end Serving

/-- **A connection that has been greeted takes a course over the frames of its stream**, however the stream
is cut into reads. -/
theorem hasTaken_serve (backend : Backend σ) {c : Connection} (hphase : c.session.phase ≠ .closed)
    (h : c.start.1.payload.length ≤ (codec c.config).limit) (state : σ) (reads : List Bytes) :
    Serving.HasTaken backend ((codec c.config).decodeAll reads.flatten).failure
      { connection := c.start.2, state, written := c.start.1.encode }
      ((codec c.config).decodeAll reads.flatten).frames (c.serve backend state reads) := by
  refine (Serving.hasTaken_foldl rfl hphase _ _).of_observed ?_
  have hreads : (reads.foldl (Serving.receive backend) (Serving.greet c state)).observed =
      (Serving.receive backend (Serving.greet c state) reads.flatten).observed :=
    Serving.foldl_receive (Serving.settled_greet c state) reads
  rw [Serving.greet_of_le h, Serving.receive_of_open rfl, List.nil_append, Serving.observed_fail] at hreads
  rw [serve, Serving.greet_of_le h]
  exact congrArg Serving.finish hreads

/-- A connection whose greeting is over the cap ends with nothing written. -/
theorem serve_of_lt (backend : Backend σ) {c : Connection}
    (h : (codec c.config).limit < c.start.1.payload.length) (state : σ) (reads : List Bytes) :
    (c.serve backend state reads).written = [] ∧
      (c.serve backend state reads).ending =
        some (.failed ⟨c.start.1.payload.length, (codec c.config).limit⟩) := by
  have hended : (Serving.greet c state).ending.isSome = true := by rw [Serving.greet_of_lt h]; rfl
  have hreads : reads.foldl (Serving.receive backend) (Serving.greet c state) = Serving.greet c state :=
    List.foldl_fixed' (Serving.receive_of_ended hended) reads
  rw [serve, hreads, Serving.greet_of_lt h]
  exact ⟨rfl, rfl⟩

/-! ## A reply over the cap -/

open Introspection in
/-- The answer to a question for one variable holds its name twice. -/
theorem not_holds_questionResult {codec : Codec} {name : String}
    (h : codec.limit < 2 * (Text.encode name).length) (capabilities : UInt32) (first : UInt8) :
    ¬ codec.Holds (Wire.resultFrames (questionResult name) capabilities first) := by
  intro hholds
  have hcolumns : (questionResult name).columns ≠ [] := List.cons_ne_nil _ _
  have hmem : Wire.columnPayload name ∈ Wire.resultPayloads (questionResult name)
      (Wire.Capability.has capabilities Wire.Capability.deprecateEof) := by
    simp [Wire.resultPayloads, questionResult, ResultSet.ofRows]
  rw [Wire.resultFrames_of_columns capabilities first hcolumns] at hholds
  rw [← Wire.payload_frames first (Wire.resultPayloads _ _)] at hmem
  obtain ⟨frame, hframe, hpayload⟩ := List.mem_map.1 hmem
  have hle := hholds frame hframe
  rw [hpayload] at hle
  have htwice := Wire.two_mul_length_le_columnPayload name
  omega

/-- An answer to the greeting that is too short to say anything logs in. -/
theorem onFrame_short {c : Connection} (h : c.session.phase = .awaitingAuth) (backend : Backend σ)
    (state : σ) (sequence : UInt8) :
    ∃ replies c', onFrame backend c state ⟨sequence, []⟩ = (.ok { frames := replies }, c', state) ∧
      c'.session.phase = .authenticated := by
  rw [onFrame_of_awaitingAuth h]
  exact ⟨_, _, rfl, rfl⟩

open Introspection in
theorem onFrame_question {c : Connection} (h : c.session.phase = .authenticated) {name : String}
    (hname : Sql.IsName name) (backend : Backend σ) (state : σ) (sequence : UInt8) :
    ∃ c', onFrame backend c state ⟨sequence, 0x03 :: Text.encode (String.ofList (question name))⟩ =
      (.ok { frames := Wire.resultFrames (questionResult name) c.session.capabilities (sequence + 1) }, c',
        state) := by
  rw [onFrame_of_authenticated h]
  dsimp only
  rw [Command.dispatch_question hname]
  exact ⟨_, rfl⟩

/-- A login with nothing in it, and a question for one variable. -/
def loginAndQuestion (name : String) : List Wire.Frame :=
  [⟨1, []⟩, ⟨0, 0x03 :: Text.encode (String.ofList (Introspection.question name))⟩]

/-- **A long name breaks the connection**: its definition, with the name twice, is over the cap. -/
theorem Course.fails_of_question {codec : Codec} {p last : Connection × σ} {bytes : Bytes}
    {ending : Ending} {name : String} (hphase : p.1.session.phase = .awaitingAuth)
    (hname : Sql.IsName name) (hlong : codec.limit < 2 * (Text.encode name).length)
    (h : Course backend codec none p (loginAndQuestion name) bytes ending last) :
    ∃ e, ending = .failed e := by
  obtain ⟨replies, c', hlogin, hphase'⟩ := onFrame_short hphase backend p.2 1
  obtain ⟨c'', hquestion⟩ := onFrame_question hphase' hname backend p.2 0
  cases h with
  | unsendable _ _ _ _ => exact ⟨_, rfl⟩
  | quit _ _ hauth _ => rw [hphase] at hauth; cases hauth
  | crashed _ hstep => rw [hlogin] at hstep; cases hstep
  | answered hstep _ _ hlater =>
    rw [hlogin] at hstep
    cases hstep
    -- behind the login the answer to the question is the next reply
    cases hlater with
    | unsendable _ _ _ _ => exact ⟨_, rfl⟩
    | quit _ _ _ hcode => cases hcode
    | crashed _ hstep => rw [hquestion] at hstep; cases hstep
    | answered hstep _ hholds _ =>
      rw [hquestion] at hstep
      cases hstep
      exact absurd hholds (not_holds_questionResult hlong _ _)

/-- There are bare names of any length. -/
theorem exists_name (n : Nat) (hpos : 0 < n) :
    ∃ name, Sql.IsName name ∧ (Text.encode name).length = n := by
  have hname : Sql.IsName (String.ofList (List.replicate n 'a')) := by
    refine ⟨fun hempty => ?_, fun c hc => ?_⟩
    · rw [String.ofList_eq_empty_iff, List.replicate_eq_nil_iff] at hempty
      omega
    · rw [String.toList_ofList] at hc
      rw [List.eq_of_mem_replicate hc]
      decide
  refine ⟨_, hname, ?_⟩
  rw [Introspection.length_encode_name hname, String.length_ofList, List.length_replicate]

/-! ## Settings that are accepted -/

/-- The cap of accepted settings is that of the codec. -/
theorem codec_of_validate {config : ServerConfig} (h : config.validate = .ok ()) :
    codec config = ⟨config.maxPacketSize⟩ := by
  have hcomplaint : config.complaint? = none := by
    unfold ServerConfig.validate at h
    split at h
    · cases h
    · assumption
  have hmax : config.maxPacketSize ≤ Wire.maxPayload := by
    refine Nat.le_of_not_lt fun hlt => ?_
    have hbound : (config.maxPacketSize == 0 || decide (Wire.maxPayload < config.maxPacketSize)) = true := by
      rw [decide_eq_true hlt, Bool.or_true]
    unfold ServerConfig.complaint? at hcomplaint
    rw [if_pos hbound] at hcomplaint
    repeat' split at hcomplaint
    all_goals cases hcomplaint
  exact congrArg Codec.mk (Nat.min_eq_left hmax)

/-- How long a greeting is: 68 bytes and the version. -/
def greetingLength (config : ServerConfig) : Nat := 68 + (Text.encode config.serverVersion).length

variable {config : ServerConfig} {connectionId : UInt32} {challenge : Wire.Challenge}

theorem length_start :
    (new config connectionId challenge).start.1.payload.length = greetingLength config := by
  have hplugin : (Text.encode config.authPlugin.name).length = 21 := by
    cases config.authPlugin <;> rfl
  have hlength : (new config connectionId challenge).start.1.payload.length =
      47 + (Text.encode config.serverVersion).length + (Text.encode config.authPlugin.name).length :=
    Wire.Greeting.length_payload _
  rw [hlength, hplugin, greetingLength]
  omega

theorem serve_ungreeted (hvalid : config.validate = .ok ()) (h : config.maxPacketSize < greetingLength config)
    (backend : Backend σ) (state : σ) (reads : List Bytes) :
    ((new config connectionId challenge).serve backend state reads).written = [] ∧
      ((new config connectionId challenge).serve backend state reads).ending =
        some (.failed ⟨greetingLength config, config.maxPacketSize⟩) := by
  have hcodec : codec (new config connectionId challenge).config = ⟨config.maxPacketSize⟩ :=
    codec_of_validate hvalid
  have hover : (codec (new config connectionId challenge).config).limit <
      (new config connectionId challenge).start.1.payload.length := by
    rw [hcodec, length_start]
    exact h
  have hserve := serve_of_lt backend hover state reads
  rwa [hcodec, length_start] at hserve

theorem serve_greeted (hvalid : config.validate = .ok ()) (h : greetingLength config ≤ config.maxPacketSize)
    (backend : Backend σ) (state : σ) (reads : List Bytes) :
    ∃ bytes ending, Course backend ⟨config.maxPacketSize⟩
        (Codec.decodeAll ⟨config.maxPacketSize⟩ reads.flatten).failure
        ((new config connectionId challenge).start.2, state)
        (Codec.decodeAll ⟨config.maxPacketSize⟩ reads.flatten).frames bytes ending
        (((new config connectionId challenge).serve backend state reads).connection,
          ((new config connectionId challenge).serve backend state reads).state) ∧
      ((new config connectionId challenge).serve backend state reads).written =
        (new config connectionId challenge).start.1.encode ++ bytes ∧
      ((new config connectionId challenge).serve backend state reads).ending = some ending := by
  have hcodec : codec (new config connectionId challenge).config = ⟨config.maxPacketSize⟩ :=
    codec_of_validate hvalid
  have hfits : (new config connectionId challenge).start.1.payload.length ≤
      (codec (new config connectionId challenge).config).limit := by
    rw [hcodec, length_start]
    exact h
  have hphase : (new config connectionId challenge).session.phase ≠ .closed := nofun
  obtain ⟨bytes, ending, hcourse, hrest⟩ := hasTaken_serve backend hphase hfits state reads
  change Course backend (codec (new config connectionId challenge).config) _ _ _ _ _ _ at hcourse
  rw [hcodec] at hcourse
  exact ⟨bytes, ending, hcourse, hrest⟩

/-- **No cap is large enough.** A name that fills its request up to the cap is told twice in the answer. -/
theorem exists_failing (hvalid : config.validate = .ok ()) (backend : Backend σ) (state : σ) :
    ∃ frames : List Wire.Frame, Codec.Holds ⟨config.maxPacketSize⟩ frames ∧
      ∀ reads, reads.flatten = frames.flatMap Wire.Frame.encode →
        ∃ e, ((new config connectionId challenge).serve backend state reads).ending = some (.failed e) := by
  by_cases hle : greetingLength config ≤ config.maxPacketSize
  · have hlong : 68 ≤ config.maxPacketSize := by
      rw [greetingLength] at hle
      omega
    obtain ⟨name, hname, hbytes⟩ := exists_name (config.maxPacketSize - 10) (by omega)
    have hholds : Codec.Holds ⟨config.maxPacketSize⟩ (loginAndQuestion name) := by
      simp only [loginAndQuestion, Codec.holds_cons, List.length_nil, List.length_cons,
        Introspection.length_encode_question hname, ← Introspection.length_encode_name hname, hbytes]
      exact ⟨Nat.zero_le _, by omega, fun _ h => absurd h List.not_mem_nil⟩
    have hmax : (Codec.mk config.maxPacketSize).limit ≤ Wire.maxPayload :=
      codec_of_validate hvalid ▸ Codec.limit_ofLimit_le config.maxPacketSize
    have htwice : (Codec.mk config.maxPacketSize).limit < 2 * (Text.encode name).length := by
      change config.maxPacketSize < _
      omega
    refine ⟨loginAndQuestion name, hholds, fun reads hreads => ?_⟩
    obtain ⟨bytes, ending, hcourse, -, hending⟩ := serve_greeted hvalid hle backend state reads
    rw [hreads, Codec.decodeAll_encoded hmax hholds] at hcourse
    obtain ⟨e, rfl⟩ := hcourse.fails_of_question rfl hname htwice
    exact ⟨e, hending⟩
  · exact ⟨[], fun _ h => absurd h List.not_mem_nil, fun reads _ =>
      ⟨_, (serve_ungreeted hvalid (Nat.lt_of_not_le hle) backend state reads).2⟩⟩

/-- **What a connection makes of its own output.** -/
structure OwnOutput (backend : Backend σ) (config : ServerConfig) (connectionId : UInt32)
    (challenge : Wire.Challenge) (state : σ) : Prop where
  /-- The length of the greeting depends on the version alone. -/
  greeting : (new config connectionId challenge).start.1.payload.length = greetingLength config
  /-- A greeting over the cap ends the connection with nothing written. -/
  ungreeted : config.maxPacketSize < greetingLength config → ∀ reads,
    ((new config connectionId challenge).serve backend state reads).written = [] ∧
      ((new config connectionId challenge).serve backend state reads).ending =
        some (.failed ⟨greetingLength config, config.maxPacketSize⟩)
  /-- Behind any other greeting the connection takes a course over the frames of its stream: each is
  answered with one whole reply, until the stream ends, the client ends the connection, the worker crashes
  or a reply has a frame over the cap. -/
  greeted : greetingLength config ≤ config.maxPacketSize → ∀ reads,
    let decoded := Codec.decodeAll ⟨config.maxPacketSize⟩ reads.flatten
    let start := (new config connectionId challenge).start
    let served := (new config connectionId challenge).serve backend state reads
    ∃ bytes ending, Course backend ⟨config.maxPacketSize⟩ decoded.failure (start.2, state) decoded.frames
        bytes ending (served.connection, served.state) ∧
      served.written = start.1.encode ++ bytes ∧ served.ending = some ending
  /-- While the replies fit, a frame of the client that is over the cap is all that can fail. -/
  fitting : greetingLength config ≤ config.maxPacketSize → ∀ reads,
    let decoded := Codec.decodeAll ⟨config.maxPacketSize⟩ reads.flatten
    RepliesFit backend ⟨config.maxPacketSize⟩ ((new config connectionId challenge).start.2, state)
        decoded.frames →
      ∀ e, ((new config connectionId challenge).serve backend state reads).ending = some (.failed e) →
        decoded.failure = some e
  /-- No cap is large enough: some frames within it make the connection fail, however they arrive. -/
  never_enough : ∃ frames : List Wire.Frame, Codec.Holds ⟨config.maxPacketSize⟩ frames ∧
    ∀ reads, reads.flatten = frames.flatMap Wire.Frame.encode →
      ∃ e, ((new config connectionId challenge).serve backend state reads).ending = some (.failed e)

/-- **When a connection breaks over its own output**, over every backend in every state and whatever a
client sends: exactly if the greeting or a reply has a frame over the cap. No accepted cap rules that out. -/
theorem own_output (backend : Backend σ) (config : ServerConfig) (hvalid : config.validate = .ok ())
    (connectionId : UInt32) (challenge : Wire.Challenge) (state : σ) :
    OwnOutput backend config connectionId challenge state where
  greeting := length_start
  ungreeted := fun h reads => serve_ungreeted hvalid h backend state reads
  greeted := fun h reads => serve_greeted hvalid h backend state reads
  fitting := by
    intro h reads decoded hfit e he
    obtain ⟨bytes, ending, hcourse, -, hending⟩ := serve_greeted hvalid h backend state reads
    exact hcourse.failure_of_repliesFit hfit (Option.some.inj (hending.symm.trans he))
  never_enough := exists_failing hvalid backend state

/-- With a cap of 79 bytes the usual greeting can just be sent. -/
theorem own_output_least_cap :
    let config : ServerConfig := { maxPacketSize := 79 }
    config.validate = .ok () ∧ greetingLength config = 79 ∧
      OwnOutput Store.backend config 1 (.ofBytes []) {} := by
  intro config
  have hvalid : config.validate = .ok () := by decide
  exact ⟨hvalid, by decide, own_output Store.backend config hvalid 1 (.ofBytes []) {}⟩

/-- A cap of 78 bytes is accepted, and no client is ever greeted. -/
theorem greeting_over_accepted_cap :
    let config : ServerConfig := { maxPacketSize := 78 }
    let served := (new config 1 (.ofBytes [])).serve Store.backend {} []
    config.validate = .ok () ∧ served.written = [] ∧ served.ending = some (.failed ⟨79, 78⟩) := by
  decide

end WireSql.Connection
