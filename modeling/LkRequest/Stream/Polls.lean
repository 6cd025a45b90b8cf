import LkRequest.Record.Authentic
import LkRequest.Stream.TlsStream

/-!
# Calls of `poll_read`

What a call of `poll_read` can do, with the records it takes out of the buffer and the end of the
transport's stream as events. A run is a sequence of calls with room in their buffers; the events
of a run also record what each call reported.
-/

namespace LkRequest.Stream

open Library Crypto Session Record Handshake List Action

/-- What a connection meets while it is read: a record, with the reader it was taken from, the end
of the transport's stream, or the report of a call. -/
inductive ReadEvent where
  | record (reader : RecordReader) (record : PlaintextRecord)
  | ended
  | polled (outcome : Except StreamError (Poll Bytes))

namespace TlsStream

/-- Records without application data, and bytes that arrive from the transport. The lists of
answers are those the transport has still to give before and after. -/
inductive Skips (crypto : Primitives) :
    TlsStream → List TransportRead → List ReadEvent → TlsStream → List TransportRead → Prop
  | refl (stream : TlsStream) (answers : List TransportRead) :
      Skips crypto stream answers [] stream answers
  | record {stream next stop : TlsStream} {reader : RecordReader} {record : PlaintextRecord}
      {outcome : Option Bool} {events : List ReadEvent} {answers rest : List TransportRead}
      (hread : stream.reader.nextRecord crypto = (reader, .ok (some record)))
      (hkind : record.contentType ≠ ContentType.applicationData)
      (hhandle : handleRecord crypto record { stream with reader := reader } = (next, .ok outcome))
      (hrest : Skips crypto next answers events stop rest) :
      Skips crypto stream answers (.record stream.reader record :: events) stop rest
  | fed {stream stop : TlsStream} {events : List ReadEvent} {answers rest : List TransportRead}
      {byte : UInt8} {bytes : Bytes}
      (hrest : Skips crypto (stream.feed (byte :: bytes)) answers events stop rest) :
      Skips crypto stream (.ready (byte :: bytes) :: answers) events stop rest

variable {later : List ReadEvent} {middle : TlsStream}

theorem Skips.trans {crypto : Primitives} {stream stop : TlsStream} {events : List ReadEvent}
    {answers left rest : List TransportRead}
    (hskips : Skips crypto stream answers events middle left)
    (hrest : Skips crypto middle left later stop rest) :
    Skips crypto stream answers (events ++ later) stop rest := by
  induction hskips with
  | refl stream answers => exact hrest
  | record hread hkind hhandle _ ih => exact .record hread hkind hhandle (ih hrest)
  | fed _ ih => exact .fed (ih hrest)

/-- The stream with a record of application data in its buffer. -/
def filled (stream : TlsStream) (reader : RecordReader) (payload : Bytes) : TlsStream :=
  { stream with reader := reader, readBuf := payload, readPos := 0 }

/-- How a call fails, and the record that it met last, if it met one: a record cannot be read, it
cannot be handled, or the transport fails. -/
inductive Fails (crypto : Primitives) (before : TlsStream) : List TransportRead → List ReadEvent →
    TlsStream → List TransportRead → StreamError → Prop
  | reading {reader : RecordReader} {left : List TransportRead} {error : TlsError}
      (hread : before.reader.nextRecord crypto = (reader, .error error)) :
      Fails crypto before left [] { before with reader := reader } left (.record error)
  | handling {stop : TlsStream} {reader : RecordReader} {record : PlaintextRecord}
      {left : List TransportRead} {error : StreamError}
      (hread : before.reader.nextRecord crypto = (reader, .ok (some record)))
      (hkind : record.contentType ≠ ContentType.applicationData)
      (hhandle : handleRecord crypto record { before with reader := reader } =
        (stop, .error error)) :
      Fails crypto before left [.record before.reader record] stop left error
  | transport (message : String) (rest : List TransportRead) :
      Fails crypto before (.failed message :: rest) [] before rest (.transport message)

/-- What one call of `poll_read` can do: the events it meets, the stream it leaves, the answers the
transport has not given and what is reported. -/
inductive Call (crypto : Primitives) (capacity : Nat) (stream : TlsStream)
    (answers : List TransportRead) :
    List ReadEvent → TlsStream → List TransportRead → Except StreamError (Poll Bytes) → Prop
  | buffered (hunread : stream.readPos < stream.readBuf.length) :
      Call crypto capacity stream answers [] (stream.putSlice capacity).1 answers
        (.ok (.ready (stream.putSlice capacity).2))
  | data {before : TlsStream} {reader : RecordReader} {record : PlaintextRecord}
      {events : List ReadEvent} {rest : List TransportRead}
      (hread : stream.readBuf.length ≤ stream.readPos)
      (hskips : Skips crypto stream answers events before rest)
      (hrecord : before.reader.nextRecord crypto = (reader, .ok (some record)))
      (hkind : record.contentType = ContentType.applicationData) :
      Call crypto capacity stream answers (events ++ [.record before.reader record])
        ((before.filled reader record.payload).putSlice capacity).1 rest
        (.ok (.ready ((before.filled reader record.payload).putSlice capacity).2))
  | ended {stop : TlsStream} {events : List ReadEvent} {rest : List TransportRead}
      (hread : stream.readBuf.length ≤ stream.readPos)
      (hskips : Skips crypto stream answers events stop (.ready [] :: rest)) :
      Call crypto capacity stream answers (events ++ [.ended]) stop rest (.ok (.ready []))
  | pending {stop : TlsStream} {events : List ReadEvent} {left rest : List TransportRead}
      (hread : stream.readBuf.length ≤ stream.readPos)
      (hskips : Skips crypto stream answers events stop left)
      (hleft : left = .pending :: rest ∨ left = [] ∧ rest = []) :
      Call crypto capacity stream answers events stop rest (.ok .pending)
  | failed {before stop : TlsStream} {events last : List ReadEvent}
      {left rest : List TransportRead} {error : StreamError}
      (hread : stream.readBuf.length ≤ stream.readPos)
      (hskips : Skips crypto stream answers events before left)
      (hfails : Fails crypto before left last stop rest error) :
      Call crypto capacity stream answers (events ++ last) stop rest (.error error)

/-! ## What the handlers leave alone -/

/-- The stream has the buffers of another. -/
structure SameBuffers (stream other : TlsStream) : Prop where
  readBuf_eq : other.readBuf = stream.readBuf
  readPos_eq : other.readPos = stream.readPos
  buf_eq : other.reader.buf = stream.reader.buf

variable {outcome : Except StreamError (Option Bool)}

section Handlers

variable {crypto : Primitives} {stream : TlsStream} {record : PlaintextRecord} {next : TlsStream}

theorem SameBuffers.refl (stream : TlsStream) : SameBuffers stream stream := ⟨rfl, rfl, rfl⟩

theorem sameBuffers_modify {f : TlsStream → TlsStream}
    (hkeeps : ∀ stream, SameBuffers stream (f stream)) :
    (Action.modify f : StreamM Unit).Preserves (SameBuffers stream) := by
  constructor
  intro other hother
  have hmodified := hkeeps other
  exact ⟨hmodified.readBuf_eq.trans hother.readBuf_eq, hmodified.readPos_eq.trans hother.readPos_eq,
    hmodified.buf_eq.trans hother.buf_eq⟩

variable {state : PostHandshakeState}

theorem sameBuffers_respondKeyUpdate :
    (respondKeyUpdate crypto state).Preserves (SameBuffers stream) := by
  apply Preserves.bind .lift
  rintro ⟨next, message, aead⟩
  apply Preserves.bind
  · exact sameBuffers_modify fun _ => ⟨rfl, rfl, rfl⟩
  intro _
  apply Preserves.bind
  · exact ⟨fun other hother => ⟨hother.readBuf_eq, hother.readPos_eq, hother.buf_eq⟩⟩
  intro record
  exact sameBuffers_modify fun _ => ⟨rfl, rfl, rfl⟩

variable {payload : Bytes}

theorem sameBuffers_handleKeyUpdate :
    (handleKeyUpdate crypto state payload).Preserves (SameBuffers stream) := by
  apply Preserves.bind .lift
  rintro ⟨next, aead⟩
  apply Preserves.bind
  · exact sameBuffers_modify fun _ => ⟨rfl, rfl, rfl⟩
  intro _
  split
  · exact sameBuffers_respondKeyUpdate
  · exact .pure

theorem sameBuffers_handlePostHandshake :
    (handlePostHandshake crypto payload).Preserves (SameBuffers stream) := by
  unfold handlePostHandshake
  split
  · exact .pure
  · apply Preserves.bind .get
    intro other
    split
    · split
      · exact sameBuffers_handleKeyUpdate
      · exact .pure
    · split
      · split
        · exact sameBuffers_modify fun _ => ⟨rfl, rfl, rfl⟩
        · exact .pure
      · exact .pure

theorem sameBuffers_handleRecord (hkind : record.contentType ≠ ContentType.applicationData) :
    (handleRecord crypto record).Preserves (SameBuffers stream) := by
  unfold handleRecord
  rw [if_neg hkind]
  split
  · simp only
    split
    · exact .pure
    · split
      · exact .pure
      · exact .fail
  · split
    · exact .bind sameBuffers_handlePostHandshake fun _ => .pure
    · exact .pure

theorem handleRecord_sameBuffers (hkind : record.contentType ≠ ContentType.applicationData)
    (hhandle : handleRecord crypto record stream = (next, outcome)) : SameBuffers stream next := by
  have hpreserves : (handleRecord crypto record).Preserves (SameBuffers stream) :=
    sameBuffers_handleRecord hkind
  have hsame := hpreserves.after stream (.refl stream)
  rw [hhandle] at hsame
  exact hsame

theorem handleRecord_applicationData {reader : RecordReader}
    (hkind : record.contentType = ContentType.applicationData) :
    handleRecord crypto record { stream with reader := reader } =
      (stream.filled reader record.payload, .ok (some true)) := by
  unfold handleRecord
  rw [if_pos hkind]
  rfl

/-- Only application data ends the search with `true`. -/
theorem handleRecord_ne_true (hkind : record.contentType ≠ ContentType.applicationData) :
    handleRecord crypto record stream ≠ (next, .ok (some true)) := by
  intro hhandle
  unfold handleRecord at hhandle
  rw [if_neg hkind] at hhandle
  split at hhandle
  · simp only at hhandle
    split at hhandle
    · cases hhandle
    · split at hhandle
      · cases hhandle
      · cases hhandle
  · split at hhandle
    · obtain ⟨_, _, _, hpure⟩ := bind_returns.mp hhandle
      cases hpure
    · cases hhandle

end Handlers

/-! ## The search for application data -/

section Search

variable {crypto : Primitives} {stream stop : TlsStream} {reader : RecordReader}

theorem readBody_of_record {record : PlaintextRecord}
    (hread : stream.reader.nextRecord crypto = (reader, .ok (some record))) :
    readBody crypto stream = handleRecord crypto record { stream with reader := reader } := by
  have hnext : nextRecord crypto stream =
      ({ stream with reader := reader }, .ok (some record)) := by
    simp only [nextRecord, hread]
    rfl
  exact bind_of_ok hnext

theorem readBody_of_none (hread : (stream.reader.nextRecord crypto).2 = .ok none) :
    readBody crypto stream = (stream, .ok (some false)) := by
  have hreader := RecordReader.nextRecord_none (Prod.ext rfl hread)
  have hnext : nextRecord crypto stream = (stream, .ok none) := by
    simp only [nextRecord, hread, hreader]
    rfl
  exact bind_of_ok hnext

theorem readBody_of_error {error : TlsError}
    (hread : stream.reader.nextRecord crypto = (reader, .error error)) :
    readBody crypto stream = ({ stream with reader := reader }, .error (.record error)) := by
  have hnext : nextRecord crypto stream =
      ({ stream with reader := reader }, .error (.record error)) := by
    simp only [nextRecord, hread]
    rfl
  exact bind_of_error hnext

/-- What one pass of the search can do. -/
theorem readBody_cases (hbody : readBody crypto stream = (stop, outcome)) :
    (∃ reader error, stream.reader.nextRecord crypto = (reader, .error error) ∧
        stop = { stream with reader := reader } ∧ outcome = .error (.record error)) ∨
      (stop = stream ∧ outcome = .ok (some false)) ∨
      ∃ reader record, stream.reader.nextRecord crypto = (reader, .ok (some record)) ∧
        (record.contentType = ContentType.applicationData ∧
            stop = stream.filled reader record.payload ∧ outcome = .ok (some true) ∨
          record.contentType ≠ ContentType.applicationData ∧ outcome ≠ .ok (some true) ∧
            handleRecord crypto record { stream with reader := reader } = (stop, outcome)) := by
  rcases hread : stream.reader.nextRecord crypto with ⟨reader, error | _ | record⟩
  · rw [readBody_of_error hread] at hbody
    cases hbody
    exact .inl ⟨reader, error, rfl, rfl, rfl⟩
  · rw [readBody_of_none (congrArg Prod.snd hread)] at hbody
    cases hbody
    exact .inr (.inl ⟨rfl, rfl⟩)
  · rw [readBody_of_record hread] at hbody
    refine .inr (.inr ⟨reader, record, rfl, ?_⟩)
    by_cases hkind : record.contentType = ContentType.applicationData
    · rw [handleRecord_applicationData hkind] at hbody
      cases hbody
      exact .inl ⟨hkind, rfl, rfl⟩
    · exact .inr ⟨hkind, fun htrue => handleRecord_ne_true hkind (htrue ▸ hbody), hbody⟩

/-- A pass that goes round again has passed over a record. -/
theorem readBody_again (hbody : readBody crypto stream = (stop, .ok none)) :
    ∃ reader record, stream.reader.nextRecord crypto = (reader, .ok (some record)) ∧
      record.contentType ≠ ContentType.applicationData ∧
      handleRecord crypto record { stream with reader := reader } = (stop, .ok none) := by
  obtain ⟨_, _, _, _, ⟨⟩⟩ | ⟨_, ⟨⟩⟩ | ⟨reader, record, hread, ⟨_, _, ⟨⟩⟩ | ⟨hkind, -, hhandle⟩⟩ :=
    readBody_cases hbody
  exact ⟨reader, record, hread, hkind, hhandle⟩

theorem length_lt_of_again (hbody : readBody crypto stream = (stop, .ok none)) :
    stop.reader.buf.length < stream.reader.buf.length := by
  obtain ⟨reader, record, hread, hkind, hhandle⟩ := readBody_again hbody
  rw [(handleRecord_sameBuffers hkind hhandle).buf_eq]
  exact RecordReader.nextRecord_length_lt hread

/-- The passes before the one that ends the search; it does not ask the transport. -/
theorem tryReadAppData_passes {outcome : Except StreamError Bool}
    (answers : List TransportRead) (hsearch : tryReadAppData crypto stream = (stop, outcome)) :
    ∃ events before, Skips crypto stream answers events before answers ∧
      readBody crypto before = (stop, outcome.map some) := by
  obtain ⟨before, hpasses, hleave⟩ := loop_exits
    (fun stream : TlsStream => stream.reader.buf.length) (fun _ _ => length_lt_of_again)
    (Nat.lt_succ_self _) hsearch
  have hbody : readBody crypto before = (stop, outcome.map some) := by
    cases outcome with
    | ok value => exact pass_eq_leave.mp hleave
    | error error => exact pass_eq_leave_error.mp hleave
  suffices hskips : ∃ events, Skips crypto stream answers events before answers by
    obtain ⟨events, hskips⟩ := hskips
    exact ⟨events, before, hskips, hbody⟩
  clear hleave hbody hsearch
  induction hpasses using Relation.ReflTransGen.head_induction_on with
  | refl => exact ⟨[], .refl before answers⟩
  | head hpass _ ih =>
    obtain ⟨reader, record, hread, hkind, hhandle⟩ :=
      readBody_again (pass_eq_again.mp hpass)
    obtain ⟨events, hskips⟩ := ih
    exact ⟨_, .record hread hkind hhandle hskips⟩

end Search

/-! ## Calls -/

section Calls

variable {crypto : Primitives} {capacity : Nat} {stream stop : TlsStream}
  {answers left rest : List TransportRead} {outcome : Except StreamError (Poll Bytes)}

variable (hread : stream.readBuf.length ≤ stream.readPos) {events : List ReadEvent}
include hread

/-- What arrives in a call before its events belongs to the call. -/
theorem Call.of_skips (hskips : Skips crypto stream answers events middle left)
    (hmiddle : middle.readBuf.length ≤ middle.readPos)
    (hcall : Call crypto capacity middle left later stop rest outcome) :
    Call crypto capacity stream answers (events ++ later) stop rest outcome := by
  cases hcall with
  | buffered hunread => exact absurd hmiddle (Nat.not_le.mpr hunread)
  | data _ hrest hrecord hkind =>
    rw [← append_assoc]
    exact .data hread (hskips.trans hrest) hrecord hkind
  | ended _ hrest =>
    rw [← append_assoc]
    exact .ended hread (hskips.trans hrest)
  | pending _ hrest hleft => exact .pending hread (hskips.trans hrest) hleft
  | failed _ hrest hfails =>
    rw [← append_assoc]
    exact .failed hread (hskips.trans hrest) hfails

omit hread in
/-- Records that are passed over leave the application data alone. -/
theorem Skips.buffers_eq (hskips : Skips crypto stream answers events stop rest) :
    stop.readBuf = stream.readBuf ∧ stop.readPos = stream.readPos := by
  induction hskips with
  | refl stream answers => exact ⟨rfl, rfl⟩
  | record hread hkind hhandle _ ih =>
    have hsame := handleRecord_sameBuffers hkind hhandle
    exact ⟨ih.1.trans hsame.readBuf_eq, ih.2.trans hsame.readPos_eq⟩
  | fed _ ih => exact ih

omit hread in
theorem Skips.consumed (hskips : Skips crypto stream answers events stop rest)
    (hread : stream.readBuf.length ≤ stream.readPos) : stop.readBuf.length ≤ stop.readPos := by
  rw [hskips.buffers_eq.1, hskips.buffers_eq.2]
  exact hread

/-- A search that ends with application data or an error is a call. -/
theorem tryReadAppData_call (capacity : Nat) (answers : List TransportRead)
    {found : Except StreamError Bool} (hsearch : tryReadAppData crypto stream = (stop, found)) :
    match found with
    | .ok true => ∃ events, Call crypto capacity stream answers events (stop.putSlice capacity).1
        answers (.ok (.ready (stop.putSlice capacity).2))
    | .ok false => ∃ events, Skips crypto stream answers events stop answers
    | .error error => ∃ events, Call crypto capacity stream answers events stop answers
        (.error error) := by
  obtain ⟨events, before, hskips, hbody⟩ := tryReadAppData_passes answers hsearch
  rcases readBody_cases hbody with ⟨reader, error, hrecord, rfl, hfound⟩ | ⟨rfl, hfound⟩ |
    ⟨reader, record, hrecord, ⟨hkind, rfl, hfound⟩ | ⟨hkind, hother, hhandle⟩⟩
  · rcases found with error | _ | _ <;> cases hfound
    exact ⟨events ++ [], .failed hread hskips (.reading hrecord)⟩
  · rcases found with error | _ | _ <;> cases hfound
    exact ⟨events, hskips⟩
  · rcases found with error | _ | _ <;> cases hfound
    exact ⟨_, .data hread hskips hrecord hkind⟩
  · rcases found with error | _ | _
    · exact ⟨_, .failed hread hskips (.handling hrecord hkind hhandle)⟩
    · exact ⟨_, hskips.trans (.record hrecord hkind hhandle (.refl stop answers))⟩
    · exact absurd rfl hother

theorem pollTransport_call
    (hpoll : pollTransport crypto capacity answers stream = (stop, rest, outcome)) :
    ∃ events, Call crypto capacity stream answers events stop rest outcome := by
  induction answers generalizing stream with
  | nil =>
    cases hpoll
    exact ⟨[], .pending hread (.refl _ _) (.inr ⟨rfl, rfl⟩)⟩
  | cons answer answers ih =>
    cases answer with
    | pending =>
      cases hpoll
      exact ⟨[], .pending hread (.refl _ _) (.inl rfl)⟩
    | failed message =>
      cases hpoll
      exact ⟨[] ++ [], .failed hread (.refl _ _) (.transport message _)⟩
    | ready bytes =>
      cases bytes with
      | nil =>
        cases hpoll
        exact ⟨[] ++ [.ended], .ended hread (.refl _ _)⟩
      | cons byte bytes =>
        have hfed : (stream.feed (byte :: bytes)).readBuf.length ≤
            (stream.feed (byte :: bytes)).readPos := hread
        have harrives : Skips crypto stream (.ready (byte :: bytes) :: answers) []
            (stream.feed (byte :: bytes)) answers := .fed (.refl _ _)
        rw [pollTransport] at hpoll
        rcases hsearch : tryReadAppData crypto (stream.feed (byte :: bytes)) with
          ⟨next, error | _ | _⟩
        · rw [hsearch] at hpoll
          cases hpoll
          obtain ⟨events, hcall⟩ := tryReadAppData_call hfed capacity _ hsearch
          exact ⟨_, hcall.of_skips hread harrives hfed⟩
        · rw [hsearch] at hpoll
          obtain ⟨events, hskips⟩ := tryReadAppData_call hfed capacity answers hsearch
          obtain ⟨later, hcall⟩ := ih (hskips.consumed hfed) hpoll
          exact ⟨_, hcall.of_skips hread (harrives.trans hskips) (hskips.consumed hfed)⟩
        · rw [hsearch] at hpoll
          cases hpoll
          obtain ⟨events, hcall⟩ := tryReadAppData_call hfed capacity _ hsearch
          exact ⟨_, hcall.of_skips hread harrives hfed⟩

omit hread

/-- Every call of `poll_read` is one of the listed ones. -/
theorem pollRead_call (hpoll : pollRead crypto capacity answers stream = (stop, rest, outcome)) :
    ∃ events, Call crypto capacity stream answers events stop rest outcome := by
  rw [pollRead] at hpoll
  by_cases hunread : stream.readPos < stream.readBuf.length
  · rw [if_pos hunread] at hpoll
    cases hpoll
    exact ⟨[], .buffered hunread⟩
  · rw [if_neg hunread] at hpoll
    have hread := Nat.not_lt.mp hunread
    generalize hsearch : tryReadAppData crypto stream = found at hpoll
    rcases found with ⟨next, error | _ | _⟩
    · cases hpoll
      exact tryReadAppData_call hread capacity answers hsearch
    · obtain ⟨events, hskips⟩ := tryReadAppData_call hread capacity answers hsearch
      obtain ⟨later, hcall⟩ := pollTransport_call (hskips.consumed hread) hpoll
      exact ⟨_, hcall.of_skips hread hskips (hskips.consumed hread)⟩
    · cases hpoll
      exact tryReadAppData_call hread capacity answers hsearch

/-- Bytes that arrive. -/
theorem skips_fed {bytes : Bytes} (hbytes : bytes ≠ []) :
    Skips crypto stream (.ready bytes :: answers) [] (stream.feed bytes) answers := by
  obtain ⟨byte, bytes, rfl⟩ := exists_cons_of_ne_nil hbytes
  exact .fed (.refl _ _)

theorem Skips.suffix
    (hskips : Skips crypto stream answers events stop rest) : rest <:+ answers := by
  induction hskips with
  | refl stream answers => exact suffix_refl answers
  | record _ _ _ _ ih => exact ih
  | fed _ ih => exact ih.trans (suffix_cons _ _)

end Calls

/-- The streams that calls of `poll_read` with room in their buffers can reach, with the events so
far. -/
inductive PollRun (crypto : Primitives) (start : TlsStream) : List ReadEvent → TlsStream → Prop
  | start : PollRun crypto start [] start
  | call {events met : List ReadEvent} {stream stop : TlsStream} {capacity : Nat}
      {answers rest : List TransportRead} {outcome : Except StreamError (Poll Bytes)}
      (hrun : PollRun crypto start events stream) (hroom : 0 < capacity)
      (hpoll : pollRead crypto capacity answers stream = (stop, rest, outcome))
      (hcall : Call crypto capacity stream answers met stop rest outcome) :
      PollRun crypto start (events ++ met ++ [.polled outcome]) stop

end TlsStream

end LkRequest.Stream
