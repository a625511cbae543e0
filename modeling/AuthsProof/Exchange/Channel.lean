import AuthsProof.Exchange.Framing

/-! The two ends of an exchange on one stream. Every call takes what the stream does with its reads
and writes; a failed call leaves the state it started from and whatever bytes were taken. -/

namespace AuthsProof.Exchange

inductive FrameKind where
  | challenge
  | submission
  | response
  deriving DecidableEq

/-- What has happened on a stream: a frame begun, or a whole frame received. -/
inductive Event where
  | began (kind : FrameKind) (payload : Bytes)
  | received (payload : Bytes)
  deriving DecidableEq

def Event.kind : Event → Option FrameKind
  | .began kind _ => some kind
  | .received _ => none

/-- The bytes that have arrived and are not read yet, the bytes the stream has taken, and the history
of both. -/
structure Stream where
  unread : Bytes
  written : Bytes
  history : List Event
  deriving DecidableEq

namespace Stream

def new : Stream := ⟨[], [], []⟩

def begun (stream : Stream) : List FrameKind := stream.history.filterMap Event.kind

/-- A payload above the limit is refused before anything is written. -/
def write (stream : Stream) (kind : FrameKind) (payload : Bytes) (maximum : Nat)
    (transfer : Transfer) : Except FramingError Unit × Stream :=
  match writeFrame payload maximum transfer with
  | (_, .error .limit) => (.error .limit, stream)
  | (bytes, answer) => (answer, { stream with
      written := stream.written ++ bytes
      history := stream.history ++ [.began kind payload] })

def read (stream : Stream) (arriving : Bytes) (maximum : Nat) (transfer : Transfer) :
    Except FramingError Bytes × Stream :=
  match readFrame (stream.unread ++ arriving) maximum transfer with
  | (.ok payload, unread) =>
    (.ok payload, { stream with unread, history := stream.history ++ [.received payload] })
  | (.error error, unread) => (.error error, { stream with unread })

end Stream

inductive ChannelState where
  | connected
  | challenged
  | submitted
  | completed
  deriving DecidableEq

structure FramedClient where
  stream : Stream
  state : ChannelState
  challenge : Option ActionChallenge

structure FramedServer where
  stream : Stream
  state : ChannelState
  challenge : Option ActionChallenge

section Calls

variable [Cbor]

namespace FramedClient

def new : FramedClient := ⟨.new, .connected, none⟩

def receiveChallenge (client : FramedClient) (arriving : Bytes) (transfer : Transfer) :
    Except FramingError ActionChallenge × FramedClient :=
  if client.state ≠ .connected then (.error .sequence, client)
  else
    match client.stream.read arriving maxChallengeFrame transfer with
    | (.error error, stream) => (.error error, { client with stream })
    | (.ok payload, stream) =>
      match decodeChallenge payload with
      | .error _ => (.error .codec, { client with stream })
      | .ok challenge => (.ok challenge, ⟨stream, .challenged, some challenge⟩)

/-- Whether the challenge a client holds is the one a request answers. -/
def answers (client : FramedClient) (request : ActionSubmission) : Bool :=
  client.challenge.any fun challenge => request.matchesChallenge challenge

def submitAction (client : FramedClient) (request : ActionSubmission) (written : Transfer)
    (arriving : Bytes) (transfer : Transfer) : Except FramingError ActionResponse × FramedClient :=
  if client.state ≠ .challenged then (.error .sequence, client)
  else if !client.answers request then (.error .binding, client)
  else
    match client.stream.write .submission (encodeRequest request) maxSubmissionFrame written with
    | (.error error, stream) => (.error error, { client with stream })
    | (.ok _, stream) =>
      match stream.read arriving maxResponseFrame transfer with
      | (.error error, stream) => (.error error, { client with stream, state := .submitted })
      | (.ok payload, stream) =>
        match decodeResponse payload with
        | .error _ => (.error .codec, { client with stream, state := .submitted })
        | .ok response => (.ok response, { client with stream, state := .completed })

end FramedClient

namespace FramedServer

def new : FramedServer := ⟨.new, .connected, none⟩

def sendChallenge (server : FramedServer) (challenge : ActionChallenge) (written : Transfer) :
    Except FramingError Unit × FramedServer :=
  if server.state ≠ .connected then (.error .sequence, server)
  else
    match server.stream.write .challenge (encodeChallenge challenge) maxChallengeFrame written with
    | (.error error, stream) => (.error error, { server with stream })
    | (.ok _, stream) => (.ok (), ⟨stream, .challenged, some challenge⟩)

def receiveAction (server : FramedServer) (challenge : ActionChallenge) (arriving : Bytes)
    (transfer : Transfer) : Except FramingError ActionSubmission × FramedServer :=
  if server.state ≠ .challenged then (.error .sequence, server)
  else if server.challenge ≠ some challenge then (.error .binding, server)
  else
    match server.stream.read arriving maxSubmissionFrame transfer with
    | (.error error, stream) => (.error error, { server with stream })
    | (.ok payload, stream) =>
      match decodeRequest payload challenge with
      | .error _ => (.error .codec, { server with stream })
      | .ok submission => (.ok submission, { server with stream, state := .submitted })

/-- The response is followed by a shutdown of the stream, which may fail by itself. -/
def sendResponse (server : FramedServer) (response : ActionResponse) (written : Transfer)
    (shutdown : Bool) : Except FramingError Unit × FramedServer :=
  if server.state ≠ .submitted then (.error .sequence, server)
  else
    match server.stream.write .response (encodeResponse response) maxResponseFrame written with
    | (.error error, stream) => (.error error, { server with stream })
    | (.ok _, stream) =>
      if shutdown then (.ok (), { server with stream, state := .completed })
      else (.error .io, { server with stream })

end FramedServer

end Calls

/-! ## Runs -/

/-- One call on a client, with what the stream does during it. -/
inductive ClientCall where
  | receiveChallenge (arriving : Bytes) (transfer : Transfer)
  | submitAction (request : ActionSubmission) (written : Transfer) (arriving : Bytes)
      (transfer : Transfer)

inductive ServerCall where
  | sendChallenge (challenge : ActionChallenge) (written : Transfer)
  | receiveAction (challenge : ActionChallenge) (arriving : Bytes) (transfer : Transfer)
  | sendResponse (response : ActionResponse) (written : Transfer) (shutdown : Bool)

/-- The frame a call is there to write. -/
def ClientCall.writes : ClientCall → Option FrameKind
  | .receiveChallenge .. => none
  | .submitAction .. => some .submission

def ServerCall.writes : ServerCall → Option FrameKind
  | .sendChallenge .. => some .challenge
  | .receiveAction .. => none
  | .sendResponse .. => some .response

/-- The stream fails or stalls while the call writes. -/
def ClientCall.Interrupted : ClientCall → Prop
  | .receiveChallenge .. => False
  | .submitAction _ written _ _ => written ≠ .complete

def ServerCall.Interrupted : ServerCall → Prop
  | .sendChallenge _ written => written ≠ .complete
  | .receiveAction .. => False
  | .sendResponse _ written shutdown => written ≠ .complete ∨ shutdown = false

/-- After a call the stream interrupted while it wrote, the caller does not make that call again. -/
def ClientCall.Prudent (calls : List ClientCall) : Prop :=
  calls.Pairwise fun earlier later => earlier.Interrupted → later.writes ≠ earlier.writes

def ServerCall.Prudent (calls : List ServerCall) : Prop :=
  calls.Pairwise fun earlier later => earlier.Interrupted → later.writes ≠ earlier.writes

section Runs

variable [Cbor]

def FramedClient.call (client : FramedClient) : ClientCall → FramedClient
  | .receiveChallenge arriving transfer => (client.receiveChallenge arriving transfer).2
  | .submitAction request written arriving transfer =>
    (client.submitAction request written arriving transfer).2

def FramedServer.call (server : FramedServer) : ServerCall → FramedServer
  | .sendChallenge challenge written => (server.sendChallenge challenge written).2
  | .receiveAction challenge arriving transfer => (server.receiveAction challenge arriving transfer).2
  | .sendResponse response written shutdown => (server.sendResponse response written shutdown).2

def FramedClient.run (calls : List ClientCall) : FramedClient := calls.foldl FramedClient.call .new

def FramedServer.run (calls : List ServerCall) : FramedServer := calls.foldl FramedServer.call .new

/-- One submission a channel: one frame of a kind, the bytes of one submission at most, and that one
answers a challenge received before. -/
structure FramedClient.OneSubmission (client : FramedClient) : Prop where
  once : client.stream.begun.Nodup
  only : ∀ kind ∈ client.stream.begun, kind = .submission
  bytes : client.stream.written = [] ∨
    ∃ submission, client.stream.written <+: frame (encodeRequest submission)
  answers : ∀ earlier payload later,
    client.stream.history = earlier ++ .began .submission payload :: later →
      ∃ submission challenge received, payload = encodeRequest submission ∧
        .received received ∈ earlier ∧ decodeChallenge received = .ok challenge ∧
        submission.matchesChallenge challenge = true

structure FramedServer.OneExchange (server : FramedServer) : Prop where
  once : server.stream.begun.Nodup
  only : ∀ kind ∈ server.stream.begun, kind = .challenge ∨ kind = .response
  bytes : server.stream.written = [] ∨ ∃ challenge response, server.stream.written <+:
    frame (encodeChallenge challenge) ++ frame (encodeResponse response)

end Runs

/-! ## What one call does -/

theorem Stream.begun_append (history : List Event) (unread written : Bytes) (event : Event) :
    (⟨unread, written, history ++ [event]⟩ : Stream).begun =
      (⟨unread, written, history⟩ : Stream).begun ++ event.kind.toList := by
  simp only [Stream.begun, List.filterMap_append]
  cases event <;> rfl

/-- A write is refused outright, or begins its frame; it is confirmed only where the stream took the
whole of it. -/
theorem Stream.write_cases {stream after : Stream} {kind : FrameKind} {payload : Bytes}
    {maximum : Nat} {transfer : Transfer} {answer : Except FramingError Unit}
    (h : stream.write kind payload maximum transfer = (answer, after)) :
    (answer ≠ .ok () ∧ after = stream) ∨
      ∃ bytes, bytes <+: frame payload ∧
        after = { stream with
          written := stream.written ++ bytes
          history := stream.history ++ [.began kind payload] } ∧
        (answer = .ok () ∧ bytes = frame payload ∨ answer ≠ .ok () ∧ transfer ≠ .complete) := by
  unfold Stream.write at h
  by_cases hfits : maximum < payload.length ∨ 2 ^ 32 ≤ payload.length
  · simp only [writeFrame, if_pos hfits] at h
    obtain ⟨rfl, rfl⟩ := Prod.mk.inj h
    exact .inl ⟨by simp, rfl⟩
  · simp only [writeFrame, if_neg hfits] at h
    cases transfer with
    | complete =>
      obtain ⟨rfl, rfl⟩ := Prod.mk.inj h
      exact .inr ⟨frame payload, List.prefix_refl _, rfl, .inl ⟨rfl, rfl⟩⟩
    | broken taken why =>
      refine .inr ⟨(frame payload).take taken, List.take_prefix _ _, ?_⟩
      cases why <;> obtain ⟨rfl, rfl⟩ := Prod.mk.inj h <;> exact ⟨rfl, .inr ⟨by simp, by simp⟩⟩

theorem Stream.read_cases {stream after : Stream} {arriving : Bytes} {maximum : Nat}
    {transfer : Transfer} {answer : Except FramingError Bytes}
    (h : stream.read arriving maximum transfer = (answer, after)) :
    after.written = stream.written ∧ after.begun = stream.begun ∧
      ((∃ payload, answer = .ok payload ∧ after.history = stream.history ++ [.received payload]) ∨
        (∃ error, answer = .error error) ∧ after.history = stream.history) := by
  unfold Stream.read at h
  split at h
  · rename_i payload unread _
    obtain ⟨rfl, rfl⟩ := Prod.mk.inj h
    refine ⟨rfl, ?_, .inl ⟨payload, rfl, rfl⟩⟩
    rw [Stream.begun_append]
    exact List.append_nil _
  · rename_i error unread _
    obtain ⟨rfl, rfl⟩ := Prod.mk.inj h
    exact ⟨rfl, rfl, .inr ⟨⟨error, rfl⟩, rfl⟩⟩

section Steps

variable [Cbor]

/-- A call that receives writes nothing; where it moves the client on, the challenge it keeps was
received on the stream. -/
theorem FramedClient.receiveChallenge_cases (client : FramedClient) (arriving : Bytes)
    (transfer : Transfer) :
    let after := (client.receiveChallenge arriving transfer).2
    after.stream.written = client.stream.written ∧ after.stream.begun = client.stream.begun ∧
      (∃ received, after.stream.history = client.stream.history ++ received ∧
        ∀ payload, .began .submission payload ∉ received) ∧
      (after.state = client.state ∧ after.challenge = client.challenge ∨
        client.state = .connected ∧ after.state = .challenged ∧ ∃ payload challenge,
          after.challenge = some challenge ∧ .received payload ∈ after.stream.history ∧
            decodeChallenge payload = .ok challenge) := by
  intro after
  by_cases hstate : client.state = .connected
  · have hafter : after = (client.receiveChallenge arriving transfer).2 := rfl
    rw [receiveChallenge, if_neg (not_not.mpr hstate)] at hafter
    cases hread : client.stream.read arriving maxChallengeFrame transfer with
    | mk answer stream =>
      obtain ⟨hwritten, hbegun, hanswer⟩ := Stream.read_cases hread
      rw [hread] at hafter
      rcases hanswer with ⟨payload, rfl, hhistory⟩ | ⟨⟨error, rfl⟩, hhistory⟩
      · cases hdecode : decodeChallenge payload with
        | error error =>
          simp only [hdecode] at hafter
          rw [hafter]
          exact ⟨hwritten, hbegun, ⟨_, hhistory, by simp⟩, .inl ⟨rfl, rfl⟩⟩
        | ok challenge =>
          simp only [hdecode] at hafter
          rw [hafter]
          refine ⟨hwritten, hbegun, ⟨_, hhistory, by simp⟩, .inr ⟨hstate, rfl, payload, challenge,
            rfl, ?_, hdecode⟩⟩
          rw [hhistory]
          exact List.mem_append_right _ (List.mem_singleton_self _)
      · rw [hafter]
        exact ⟨hwritten, hbegun, ⟨[], by rw [hhistory, List.append_nil], by simp⟩, .inl ⟨rfl, rfl⟩⟩
  · have hafter : after = client := by
      show (client.receiveChallenge arriving transfer).2 = client
      rw [receiveChallenge, if_pos hstate]
    rw [hafter]
    exact ⟨rfl, rfl, ⟨[], (List.append_nil _).symm, by simp⟩, .inl ⟨rfl, rfl⟩⟩

/-- A call that submits does nothing, or begins one submission that answers the challenge held; it
leaves the state only where the frame was written whole. -/
theorem FramedClient.submitAction_cases (client : FramedClient) (request : ActionSubmission)
    (written : Transfer) (arriving : Bytes) (transfer : Transfer) :
    let after := (client.submitAction request written arriving transfer).2
    after = client ∨
      client.state = .challenged ∧ client.answers request = true ∧
        after.challenge = client.challenge ∧ ∃ bytes received, bytes <+: frame (encodeRequest request) ∧
          after.stream.written = client.stream.written ++ bytes ∧
          after.stream.begun = client.stream.begun ++ [.submission] ∧
          after.stream.history =
            client.stream.history ++ .began .submission (encodeRequest request) :: received ∧
          (∀ payload, .began .submission payload ∉ received) ∧
          (after.state = .submitted ∨ after.state = .completed ∨
            after.state = .challenged ∧ written ≠ .complete) := by
  intro after
  have hafter : after = (client.submitAction request written arriving transfer).2 := rfl
  by_cases hstate : client.state = .challenged
  · cases hanswers : client.answers request with
    | false =>
      left
      rw [hafter, submitAction, if_neg (not_not.mpr hstate), hanswers]
      rfl
    | true =>
      rw [submitAction, if_neg (not_not.mpr hstate), hanswers, if_neg (by decide)] at hafter
      cases hwrite : client.stream.write .submission (encodeRequest request) maxSubmissionFrame
          written with
      | mk answer stream =>
        rw [hwrite] at hafter
        rcases Stream.write_cases hwrite with ⟨hanswer, rfl⟩ | ⟨bytes, hbytes, hstream, hanswer⟩
        · left
          cases answer with
          | ok _ => exact absurd rfl hanswer
          | error error => exact hafter
        · have hbegun : stream.begun = client.stream.begun ++ [.submission] := by
            rw [hstream]
            exact Stream.begun_append _ _ _ _
          right
          refine ⟨hstate, rfl, ?_⟩
          cases answer with
          | error error =>
            have hbroken : written ≠ .complete := by
              rcases hanswer with ⟨hok, -⟩ | ⟨-, hbroken⟩
              · cases hok
              · exact hbroken
            rw [hafter]
            exact ⟨rfl, bytes, [], hbytes, by rw [hstream], hbegun, by rw [hstream], by simp,
              .inr (.inr ⟨hstate, hbroken⟩)⟩
          | ok _ =>
            cases hread : stream.read arriving maxResponseFrame transfer with
            | mk answer final =>
              obtain ⟨hsame, hbegun', hread'⟩ := Stream.read_cases hread
              rw [hstream] at hsame
              simp only [hread] at hafter
              rcases hread' with ⟨payload, rfl, hhistory⟩ | ⟨⟨error, rfl⟩, hhistory⟩
              · cases hdecode : decodeResponse payload with
                | error error =>
                  simp only [hdecode] at hafter
                  rw [hafter]
                  exact ⟨rfl, bytes, [.received payload], hbytes, hsame, hbegun'.trans hbegun,
                    by rw [hhistory, hstream, List.append_assoc]; rfl, by simp, .inl rfl⟩
                | ok response =>
                  simp only [hdecode] at hafter
                  rw [hafter]
                  exact ⟨rfl, bytes, [.received payload], hbytes, hsame, hbegun'.trans hbegun,
                    by rw [hhistory, hstream, List.append_assoc]; rfl, by simp, .inr (.inl rfl)⟩
              · rw [hafter]
                exact ⟨rfl, bytes, [], hbytes, hsame, hbegun'.trans hbegun,
                  by rw [hhistory, hstream], by simp, .inl rfl⟩
  · left
    rw [hafter, submitAction, if_pos hstate]

/-- A challenge is sent where none was, or is begun; the state is left only where it was written
whole. -/
theorem FramedServer.sendChallenge_cases (server : FramedServer) (challenge : ActionChallenge)
    (written : Transfer) :
    let after := (server.sendChallenge challenge written).2
    after = server ∨
      server.state = .connected ∧ ∃ bytes, bytes <+: frame (encodeChallenge challenge) ∧
        after.stream.written = server.stream.written ++ bytes ∧
        after.stream.begun = server.stream.begun ++ [.challenge] ∧
        (after.state = .challenged ∧ bytes = frame (encodeChallenge challenge) ∨
          after.state = .connected ∧ written ≠ .complete) := by
  intro after
  have hafter : after = (server.sendChallenge challenge written).2 := rfl
  by_cases hstate : server.state = .connected
  · rw [sendChallenge, if_neg (not_not.mpr hstate)] at hafter
    cases hwrite : server.stream.write .challenge (encodeChallenge challenge) maxChallengeFrame
        written with
    | mk answer stream =>
      rw [hwrite] at hafter
      rcases Stream.write_cases hwrite with ⟨hanswer, rfl⟩ | ⟨bytes, hbytes, hstream, hanswer⟩
      · left
        cases answer with
        | ok _ => exact absurd rfl hanswer
        | error error => exact hafter
      · have hbegun : stream.begun = server.stream.begun ++ [.challenge] := by
          rw [hstream]
          exact Stream.begun_append _ _ _ _
        refine .inr ⟨hstate, bytes, hbytes, ?_⟩
        cases answer with
        | ok _ =>
          have hwhole : bytes = frame (encodeChallenge challenge) := by
            rcases hanswer with ⟨-, hwhole⟩ | ⟨hne, -⟩
            · exact hwhole
            · exact absurd rfl hne
          rw [hafter]
          exact ⟨by rw [hstream], hbegun, .inl ⟨rfl, hwhole⟩⟩
        | error error =>
          have hbroken : written ≠ .complete := by
            rcases hanswer with ⟨hok, -⟩ | ⟨-, hbroken⟩
            · cases hok
            · exact hbroken
          rw [hafter]
          exact ⟨by rw [hstream], hbegun, .inr ⟨hstate, hbroken⟩⟩
  · left
    rw [hafter, sendChallenge, if_pos hstate]

theorem FramedServer.receiveAction_cases (server : FramedServer) (challenge : ActionChallenge)
    (arriving : Bytes) (transfer : Transfer) :
    let after := (server.receiveAction challenge arriving transfer).2
    after.stream.written = server.stream.written ∧ after.stream.begun = server.stream.begun ∧
      (after.state = server.state ∨ server.state = .challenged ∧ after.state = .submitted) := by
  intro after
  have hafter : after = (server.receiveAction challenge arriving transfer).2 := rfl
  by_cases hstate : server.state = .challenged
  · by_cases hbinding : server.challenge = some challenge
    · rw [receiveAction, if_neg (not_not.mpr hstate), if_neg (not_not.mpr hbinding)] at hafter
      cases hread : server.stream.read arriving maxSubmissionFrame transfer with
      | mk answer stream =>
        obtain ⟨hwritten, hbegun, hanswer⟩ := Stream.read_cases hread
        rw [hread] at hafter
        rcases hanswer with ⟨payload, rfl, -⟩ | ⟨⟨error, rfl⟩, -⟩
        · cases hdecode : decodeRequest payload challenge with
          | error error =>
            simp only [hdecode] at hafter
            rw [hafter]
            exact ⟨hwritten, hbegun, .inl rfl⟩
          | ok submission =>
            simp only [hdecode] at hafter
            rw [hafter]
            exact ⟨hwritten, hbegun, .inr ⟨hstate, rfl⟩⟩
        · rw [hafter]
          exact ⟨hwritten, hbegun, .inl rfl⟩
    · rw [receiveAction, if_neg (not_not.mpr hstate), if_pos hbinding] at hafter
      rw [hafter]
      exact ⟨rfl, rfl, .inl rfl⟩
  · rw [receiveAction, if_pos hstate] at hafter
    rw [hafter]
    exact ⟨rfl, rfl, .inl rfl⟩

theorem FramedServer.sendResponse_cases (server : FramedServer) (response : ActionResponse)
    (written : Transfer) (shutdown : Bool) :
    let after := (server.sendResponse response written shutdown).2
    after = server ∨
      server.state = .submitted ∧ ∃ bytes, bytes <+: frame (encodeResponse response) ∧
        after.stream.written = server.stream.written ++ bytes ∧
        after.stream.begun = server.stream.begun ++ [.response] ∧
        (after.state = .completed ∨
          after.state = .submitted ∧ (written ≠ .complete ∨ shutdown = false)) := by
  intro after
  have hafter : after = (server.sendResponse response written shutdown).2 := rfl
  by_cases hstate : server.state = .submitted
  · rw [sendResponse, if_neg (not_not.mpr hstate)] at hafter
    cases hwrite : server.stream.write .response (encodeResponse response) maxResponseFrame
        written with
    | mk answer stream =>
      rw [hwrite] at hafter
      rcases Stream.write_cases hwrite with ⟨hanswer, rfl⟩ | ⟨bytes, hbytes, hstream, hanswer⟩
      · left
        cases answer with
        | ok _ => exact absurd rfl hanswer
        | error error => exact hafter
      · have hbegun : stream.begun = server.stream.begun ++ [.response] := by
          rw [hstream]
          exact Stream.begun_append _ _ _ _
        refine .inr ⟨hstate, bytes, hbytes, ?_⟩
        cases answer with
        | ok _ =>
          cases shutdown with
          | true =>
            rw [hafter]
            exact ⟨by rw [hstream]; rfl, hbegun, .inl rfl⟩
          | false =>
            rw [hafter]
            exact ⟨by rw [hstream]; rfl, hbegun, .inr ⟨hstate, .inr rfl⟩⟩
        | error error =>
          have hbroken : written ≠ .complete := by
            rcases hanswer with ⟨hok, -⟩ | ⟨-, hbroken⟩
            · cases hok
            · exact hbroken
          rw [hafter]
          exact ⟨by rw [hstream], hbegun, .inr ⟨hstate, .inl hbroken⟩⟩
  · left
    rw [hafter, sendResponse, if_pos hstate]

end Steps

/-! ## What a run does -/

section Client

variable [Cbor]

/-- How far a client is, with the calls still to come: nothing begun, or one submission begun and
either the state or the caller keeps it from another. -/
inductive FramedClient.Phase (client : FramedClient) (rest : List ClientCall) : Prop
  | quiet (begun : client.stream.begun = []) (written : client.stream.written = [])
  | spent (submission : ActionSubmission) (begun : client.stream.begun = [.submission])
      (written : client.stream.written <+: frame (encodeRequest submission))
      (done : client.state = .submitted ∨ client.state = .completed ∨
        ∀ call ∈ rest, call.writes ≠ some .submission)

/-- The challenge a client holds was received, and so was the one each submission answers. -/
structure FramedClient.Answered (client : FramedClient) : Prop where
  held : ∀ challenge, client.challenge = some challenge → ∃ payload,
    .received payload ∈ client.stream.history ∧ decodeChallenge payload = .ok challenge
  answers : ∀ earlier payload later,
    client.stream.history = earlier ++ .began .submission payload :: later →
      ∃ submission challenge received, payload = encodeRequest submission ∧
        .received received ∈ earlier ∧ decodeChallenge received = .ok challenge ∧
        submission.matchesChallenge challenge = true

theorem FramedClient.Phase.receive {client after : FramedClient} {call : ClientCall}
    {rest : List ClientCall} (h : client.Phase (call :: rest))
    (hwritten : after.stream.written = client.stream.written)
    (hbegun : after.stream.begun = client.stream.begun)
    (hstate : after.state = client.state ∨ client.state = .connected) : after.Phase rest := by
  cases h with
  | quiet begun written => exact .quiet (hbegun.trans begun) (hwritten.trans written)
  | spent submission begun written done =>
    refine .spent submission (hbegun.trans begun) (hwritten ▸ written) ?_
    rcases hstate with hsame | hconnected
    · rw [hsame]
      exact done.imp_right fun hdone => hdone.imp_right fun hrest later hlater =>
        hrest later (List.mem_cons_of_mem call hlater)
    · rw [hconnected] at done
      rcases done with hdone | hdone | hrest
      · cases hdone
      · cases hdone
      · exact .inr (.inr fun later hlater => hrest later (List.mem_cons_of_mem call hlater))

/-- A history grows by events that begin no submission, or by one submission that answers. -/
theorem FramedClient.Answered.extend {client after : FramedClient} (h : client.Answered)
    {received : List Event} (extra : List Event) (hquiet : ∀ payload, .began .submission payload ∉ received)
    (hhistory : after.stream.history = client.stream.history ++ (extra ++ received))
    (hextra : extra = [] ∨ ∃ submission challenge,
      extra = [.began .submission (encodeRequest submission)] ∧
        client.challenge = some challenge ∧ submission.matchesChallenge challenge = true)
    (hheld : after.challenge = client.challenge ∨ ∃ payload challenge,
      after.challenge = some challenge ∧ .received payload ∈ after.stream.history ∧
        decodeChallenge payload = .ok challenge) : after.Answered where
  held := by
    intro challenge hchallenge
    rcases hheld with hsame | ⟨payload, held, heq, hmem, hdecode⟩
    · obtain ⟨payload, hmem, hdecode⟩ := h.held challenge (hsame ▸ hchallenge)
      exact ⟨payload, by rw [hhistory]; exact List.mem_append_left _ hmem, hdecode⟩
    · obtain rfl : held = challenge := Option.some.inj (heq.symm.trans hchallenge)
      exact ⟨payload, hmem, hdecode⟩
  answers := by
    intro earlier payload later hsplit
    rw [hhistory] at hsplit
    rcases List.append_eq_append_iff.mp hsplit with ⟨middle, hearlier, hmiddle⟩ | ⟨middle, hclient, hmiddle⟩
    · rcases hextra with rfl | ⟨submission, challenge, rfl, hchallenge, hmatches⟩
      · refine absurd ?_ (hquiet payload)
        rw [List.nil_append] at hmiddle
        rw [hmiddle]
        exact List.mem_append_right _ List.mem_cons_self
      · obtain ⟨received', hmem, hdecode⟩ := h.held challenge hchallenge
        cases middle with
        | nil =>
          obtain ⟨hevent, -⟩ := List.cons.inj hmiddle
          cases hevent
          exact ⟨submission, challenge, received', rfl,
            by rw [hearlier, List.append_nil]; exact hmem, hdecode, hmatches⟩
        | cons event middle =>
          obtain ⟨-, hreceived⟩ := List.cons.inj hmiddle
          refine absurd ?_ (hquiet payload)
          rw [show received = middle ++ .began .submission payload :: later from hreceived]
          exact List.mem_append_right _ List.mem_cons_self
    · cases middle with
      | nil =>
        rw [List.append_nil] at hclient
        rw [List.nil_append] at hmiddle
        rcases hextra with rfl | ⟨submission, challenge, rfl, hchallenge, hmatches⟩
        · refine absurd ?_ (hquiet payload)
          rw [List.nil_append] at hmiddle
          rw [← hmiddle]
          exact List.mem_cons_self
        · obtain ⟨hevent, -⟩ := List.cons.inj hmiddle
          cases hevent
          obtain ⟨received', hmem, hdecode⟩ := h.held challenge hchallenge
          exact ⟨submission, challenge, received', rfl, hclient ▸ hmem, hdecode, hmatches⟩
      | cons event middle =>
        obtain ⟨rfl, -⟩ := List.cons.inj hmiddle
        exact h.answers earlier payload middle hclient

theorem FramedClient.call_keeps {client : FramedClient} {call : ClientCall} {rest : List ClientCall}
    (hphase : client.Phase (call :: rest)) (hanswered : client.Answered)
    (hprudent : ∀ later ∈ rest, call.Interrupted → later.writes ≠ call.writes) :
    (client.call call).Phase rest ∧ (client.call call).Answered := by
  cases call with
  | receiveChallenge arriving transfer =>
    obtain ⟨hwritten, hbegun, ⟨received, hhistory, hquiet⟩, hstate⟩ :=
      client.receiveChallenge_cases arriving transfer
    refine ⟨hphase.receive hwritten hbegun (hstate.imp And.left And.left), hanswered.extend [] hquiet
      hhistory (.inl rfl) (hstate.imp And.right fun h => ?_)⟩
    obtain ⟨-, -, payload, challenge, hheld⟩ := h
    exact ⟨payload, challenge, hheld⟩
  | submitAction request written arriving transfer =>
    rcases client.submitAction_cases request written arriving transfer with hsame |
      ⟨hstate, hmatch, hheld, bytes, received, hbytes, hwritten, hbegun, hhistory, hquiet, hafter⟩
    · rw [show client.call (.submitAction request written arriving transfer) = client from hsame]
      exact ⟨hphase.receive rfl rfl (.inl rfl), hanswered⟩
    · constructor
      · cases hphase with
        | quiet begun empty =>
          rw [begun] at hbegun
          rw [empty, List.nil_append] at hwritten
          refine .spent request hbegun (hwritten ▸ hbytes) (hafter.imp_right fun h =>
            h.imp_right fun hbroken later hlater => ?_)
          exact hprudent later hlater hbroken.2
        | spent submission begun prefixed done =>
          -- The state is the one that submits, so the caller has promised not to.
          rcases done with hdone | hdone | hrest
          · rw [hstate] at hdone
            cases hdone
          · rw [hstate] at hdone
            cases hdone
          · exact absurd rfl (hrest _ List.mem_cons_self)
      · cases hchallenge : client.challenge with
        | none =>
          rw [answers, hchallenge] at hmatch
          cases hmatch
        | some challenge =>
          rw [answers, hchallenge] at hmatch
          exact hanswered.extend [.began .submission (encodeRequest request)] hquiet
            hhistory (.inr ⟨request, challenge, rfl, hchallenge, hmatch⟩) (.inl hheld)

theorem FramedClient.run_keeps {client : FramedClient} {calls : List ClientCall}
    (hphase : client.Phase calls) (hanswered : client.Answered) (hprudent : ClientCall.Prudent calls) :
    (calls.foldl FramedClient.call client).Phase [] ∧
      (calls.foldl FramedClient.call client).Answered := by
  induction calls generalizing client with
  | nil => exact ⟨hphase, hanswered⟩
  | cons call rest ih =>
    obtain ⟨hcall, hrest⟩ := List.pairwise_cons.mp hprudent
    obtain ⟨hphase, hanswered⟩ := FramedClient.call_keeps hphase hanswered hcall
    exact ih hphase hanswered hrest

end Client

section Server

variable [Cbor]

/-- How far a server is: nothing begun, one challenge, or one challenge and one response. -/
inductive FramedServer.Phase (server : FramedServer) (rest : List ServerCall) : Prop
  | quiet (begun : server.stream.begun = []) (written : server.stream.written = [])
      (state : server.state = .connected)
  | stalled (challenge : ActionChallenge) (begun : server.stream.begun = [.challenge])
      (written : server.stream.written <+: frame (encodeChallenge challenge))
      (state : server.state = .connected) (done : ∀ call ∈ rest, call.writes ≠ some .challenge)
  | challenged (challenge : ActionChallenge) (begun : server.stream.begun = [.challenge])
      (written : server.stream.written = frame (encodeChallenge challenge))
      (state : server.state = .challenged ∨ server.state = .submitted)
  | responded (challenge : ActionChallenge) (response : ActionResponse)
      (begun : server.stream.begun = [.challenge, .response])
      (written : server.stream.written <+:
        frame (encodeChallenge challenge) ++ frame (encodeResponse response))
      (state : server.state = .completed ∨
        server.state = .submitted ∧ ∀ call ∈ rest, call.writes ≠ some .response)

theorem FramedServer.Phase.tail {server : FramedServer} {call : ServerCall}
    {rest : List ServerCall} (h : server.Phase (call :: rest)) : server.Phase rest := by
  cases h with
  | quiet begun written state => exact .quiet begun written state
  | stalled challenge begun written state done =>
    exact .stalled challenge begun written state fun later hlater =>
      done later (List.mem_cons_of_mem call hlater)
  | challenged challenge begun written state => exact .challenged challenge begun written state
  | responded challenge response begun written state =>
    exact .responded challenge response begun written (state.imp_right fun h =>
      ⟨h.1, fun later hlater => h.2 later (List.mem_cons_of_mem call hlater)⟩)

theorem FramedServer.call_keeps {server : FramedServer} {call : ServerCall} {rest : List ServerCall}
    (hphase : server.Phase (call :: rest))
    (hprudent : ∀ later ∈ rest, call.Interrupted → later.writes ≠ call.writes) :
    (server.call call).Phase rest := by
  cases call with
  | sendChallenge challenge written =>
    rcases server.sendChallenge_cases challenge written with hsame |
      ⟨hconnected, bytes, hbytes, hwritten, hbegun, hafter⟩
    · rw [show server.call (.sendChallenge challenge written) = server from hsame]
      exact hphase.tail
    · cases hphase with
      | quiet begun empty state =>
        rw [begun] at hbegun
        rw [empty, List.nil_append] at hwritten
        rcases hafter with ⟨hstate, hwhole⟩ | ⟨hstate, hbroken⟩
        · exact .challenged challenge hbegun (hwritten.trans hwhole) (.inl hstate)
        · exact .stalled challenge hbegun (hwritten ▸ hbytes) hstate fun later hlater =>
            hprudent later hlater hbroken
      | stalled _ _ _ _ done => exact absurd rfl (done _ List.mem_cons_self)
      | challenged _ _ _ state => simp [hconnected] at state
      | responded _ _ _ _ state => simp [hconnected] at state
  | receiveAction challenge arriving transfer =>
    obtain ⟨hwritten, hbegun, hstate⟩ := server.receiveAction_cases challenge arriving transfer
    cases hphase.tail with
    | quiet begun empty state =>
      refine .quiet (hbegun.trans begun) (hwritten.trans empty) ?_
      rcases hstate with hsame | ⟨hchallenged, -⟩
      · exact hsame.trans state
      · rw [state] at hchallenged
        cases hchallenged
    | stalled held begun prefixed state done =>
      refine .stalled held (hbegun.trans begun) (hwritten ▸ prefixed) ?_ done
      rcases hstate with hsame | ⟨hchallenged, -⟩
      · exact hsame.trans state
      · rw [state] at hchallenged
        cases hchallenged
    | challenged held begun whole state =>
      refine .challenged held (hbegun.trans begun) (hwritten.trans whole) ?_
      rcases hstate with hsame | ⟨-, hsubmitted⟩
      · exact hsame ▸ state
      · exact .inr hsubmitted
    | responded held response begun prefixed state =>
      refine .responded held response (hbegun.trans begun) (hwritten ▸ prefixed) ?_
      rcases hstate with hsame | ⟨hchallenged, -⟩
      · exact hsame ▸ state
      · simp [hchallenged] at state
  | sendResponse response written shutdown =>
    rcases server.sendResponse_cases response written shutdown with hsame |
      ⟨hsubmitted, bytes, hbytes, hwritten, hbegun, hafter⟩
    · rw [show server.call (.sendResponse response written shutdown) = server from hsame]
      exact hphase.tail
    · cases hphase with
      | quiet _ _ state => simp [hsubmitted] at state
      | stalled _ _ _ state => simp [hsubmitted] at state
      | challenged challenge begun whole state =>
        rw [begun] at hbegun
        rw [whole] at hwritten
        refine .responded challenge response hbegun ?_ (hafter.imp_right fun h =>
          ⟨h.1, fun later hlater => hprudent later hlater h.2⟩)
        show (server.sendResponse response written shutdown).2.stream.written <+: _
        rw [hwritten]
        exact List.prefix_append_right_inj _ |>.mpr hbytes
      | responded _ _ _ _ state =>
        rcases state with hcompleted | ⟨-, hrest⟩
        · rw [hsubmitted] at hcompleted
          cases hcompleted
        · exact absurd rfl (hrest _ List.mem_cons_self)

theorem FramedServer.run_keeps {server : FramedServer} {calls : List ServerCall}
    (hphase : server.Phase calls) (hprudent : ServerCall.Prudent calls) :
    (calls.foldl FramedServer.call server).Phase [] := by
  induction calls generalizing server with
  | nil => exact hphase
  | cons call rest ih =>
    obtain ⟨hcall, hrest⟩ := List.pairwise_cons.mp hprudent
    exact ih (FramedServer.call_keeps hphase hcall) hrest

theorem FramedClient.Phase.oneSubmission {client : FramedClient} (h : client.Phase [])
    (hanswered : client.Answered) : client.OneSubmission := by
  have hphase : (client.stream.begun = [] ∨ client.stream.begun = [.submission]) ∧
      (client.stream.written = [] ∨
        ∃ submission, client.stream.written <+: frame (encodeRequest submission)) := by
    cases h with
    | quiet begun written => exact ⟨.inl begun, .inl written⟩
    | spent submission begun written => exact ⟨.inr begun, .inr ⟨submission, written⟩⟩
  obtain ⟨hbegun, hwritten⟩ := hphase
  refine ⟨?_, fun kind hkind => ?_, hwritten, hanswered.answers⟩
  · rcases hbegun with hbegun | hbegun <;> simp [hbegun]
  · rcases hbegun with hbegun | hbegun
    · rw [hbegun] at hkind
      cases hkind
    · rw [hbegun] at hkind
      exact List.mem_singleton.mp hkind

theorem FramedServer.Phase.oneExchange {server : FramedServer} (h : server.Phase []) :
    server.OneExchange := by
  have hphase : (server.stream.begun = [] ∨ server.stream.begun = [.challenge] ∨
        server.stream.begun = [.challenge, .response]) ∧
      (server.stream.written = [] ∨ ∃ challenge response, server.stream.written <+:
        frame (encodeChallenge challenge) ++ frame (encodeResponse response)) := by
    have hsome : ActionResponse := ⟨none, .completed [] (by decide), ⟨0, 0⟩⟩
    cases h with
    | quiet begun written => exact ⟨.inl begun, .inl written⟩
    | stalled challenge begun written =>
      exact ⟨.inr (.inl begun), .inr ⟨challenge, hsome, written.trans (List.prefix_append _ _)⟩⟩
    | challenged challenge begun written =>
      exact ⟨.inr (.inl begun), .inr ⟨challenge, hsome, written ▸ List.prefix_append _ _⟩⟩
    | responded challenge response begun written =>
      exact ⟨.inr (.inr begun), .inr ⟨challenge, response, written⟩⟩
  obtain ⟨hbegun, hwritten⟩ := hphase
  refine ⟨?_, fun kind hkind => ?_, hwritten⟩
  · rcases hbegun with hbegun | hbegun | hbegun <;> simp [hbegun]
  · rcases hbegun with hbegun | hbegun | hbegun <;> rw [hbegun] at hkind <;> simp at hkind <;>
      simp [hkind]

/-- A channel whose caller does not repeat an interrupted call carries one submission, or one
challenge and one response. -/
theorem exchange_once :
    (∀ calls, ClientCall.Prudent calls → (FramedClient.run calls).OneSubmission) ∧
      ∀ calls, ServerCall.Prudent calls → (FramedServer.run calls).OneExchange := by
  constructor
  · intro calls hprudent
    have hfresh : FramedClient.new.Answered := by
      refine ⟨?_, fun earlier payload later h => ?_⟩
      · intro challenge h
        cases h
      · cases earlier <;> cases h
    obtain ⟨hphase, hanswered⟩ := FramedClient.run_keeps (.quiet rfl rfl) hfresh hprudent
    exact hphase.oneSubmission hanswered
  · intro calls hprudent
    have hphase : FramedServer.new.Phase calls := .quiet rfl rfl rfl
    exact (FramedServer.run_keeps hphase hprudent).oneExchange

end Server

section Sample

local instance sampleChannelCbor : Cbor := rfc8949

def sampleSubmission : ActionSubmission where
  challenge := .filled 7
  profile := sampleProfileBinding
  body := [1]
  proof := [2]
  bodyNonempty := by decide
  bodyBounded := by decide
  proofNonempty := by decide
  proofBounded := by decide

/-- A client whose first submission stalls after three bytes submits again. -/
def sampleImpatient : List ClientCall :=
  [.receiveChallenge (frame (encodeChallenge sampleChallenge)) .complete,
    .submitAction sampleSubmission (.broken 3 .stalled) [] .complete,
    .submitAction sampleSubmission .complete [] .complete]

/-- The same client where the stream takes the whole frame. -/
theorem sample_exchange_once :
    (FramedClient.run [.receiveChallenge (frame (encodeChallenge sampleChallenge)) .complete,
      .submitAction sampleSubmission .complete [] .complete]).OneSubmission ∧
    (FramedServer.run [.sendChallenge sampleChallenge (.broken 3 .stalled)]).OneExchange := by
  refine ⟨exchange_once.1 _ ?_, exchange_once.2 _ ?_⟩
  · simp [ClientCall.Prudent, ClientCall.Interrupted]
  · exact List.pairwise_singleton _ _

/-- After an interrupted write the state still allows the same call, and a second frame goes out. -/
theorem exchange_twice : ¬(FramedClient.run sampleImpatient).OneSubmission ∧
    ¬(FramedServer.run [.sendChallenge sampleChallenge (.broken 3 .stalled),
      .sendChallenge sampleChallenge .complete]).OneExchange := by
  constructor
  · intro h
    exact absurd h.once (by decide +kernel)
  · intro h
    exact absurd h.once (by decide +kernel)

end Sample

end AuthsProof.Exchange
