import LkRequest.Library.History
import LkRequest.Stream.Injection
import LkRequest.Stream.Polls

/-!
# What a caller reads

The bytes that calls of `poll_read` return are the application data of the records taken, in order.
A call that returns no bytes tells the caller that the stream has ended. It does so after an empty
record of application data and at the end of the transport's stream, whatever came before; a
close_notify has no part in it.
-/

namespace LkRequest.Stream

open Library Crypto Session Record Handshake List Option

namespace ReadEvent

/-- The application data of a record. -/
def appData : ReadEvent → Bytes
  | .record _ taken =>
    if taken.contentType = ContentType.applicationData then taken.payload else []
  | .ended => []
  | .polled _ => []

/-- The bytes that a call has returned. -/
def returned : ReadEvent → Bytes
  | .polled (.ok (.ready bytes)) => bytes
  | _ => []

/-- What the caller sees of an event. -/
def reports : ReadEvent → List (Except StreamError (Poll Bytes))
  | .polled outcome => [outcome]
  | _ => []

end ReadEvent

variable {event : ReadEvent} {later : List ReadEvent}

namespace TlsStream

/-- The application data that has been taken but not returned. -/
def unread (stream : TlsStream) : Bytes := stream.readBuf.drop stream.readPos

section Calls

variable {crypto : Primitives} {capacity : Nat} {stream stop : TlsStream}
  {answers rest : List TransportRead} {events : List ReadEvent}
  {outcome : Except StreamError (Poll Bytes)}

theorem putSlice_append_unread (stream : TlsStream) (capacity : Nat) :
    (stream.putSlice capacity).2 ++ (stream.putSlice capacity).1.unread = stream.unread := by
  change (stream.unread.take _) ++ stream.readBuf.drop (stream.readPos + _) = _
  rw [← drop_drop]
  exact take_append_drop _ _

/-- With room for a byte, no bytes are put only if there are none. -/
theorem putSlice_eq_nil (hroom : 0 < capacity) :
    (stream.putSlice capacity).2 = [] ↔ stream.unread = [] := by
  change stream.unread.take (min stream.unread.length capacity) = [] ↔ _
  rw [take_eq_nil_iff]
  constructor
  · rintro (hzero | hnil)
    · apply length_eq_zero_iff.mp
      omega
    · exact hnil
  · exact .inr

theorem unread_filled (reader : RecordReader) (payload : Bytes) :
    (stream.filled reader payload).unread = payload := rfl

theorem unread_eq_nil (hread : stream.readBuf.length ≤ stream.readPos) : stream.unread = [] :=
  drop_eq_nil_iff.mpr hread

theorem Skips.unread_eq (hskips : Skips crypto stream answers events stop rest) :
    stop.unread = stream.unread := by
  rw [unread, hskips.buffers_eq.1, hskips.buffers_eq.2, unread]

/-- The events are records without application data. -/
def PassedOver (events : List ReadEvent) : Prop :=
  ∀ event ∈ events, ∃ reader record, event = .record reader record ∧
    record.contentType ≠ ContentType.applicationData

theorem Skips.mem (hskips : Skips crypto stream answers events stop rest) : PassedOver events := by
  induction hskips with
  | refl stream answers => exact fun _ hevent => absurd hevent not_mem_nil
  | @record stream next stop reader record outcome events answers rest hread hkind hhandle _ ih =>
    intro event hevent
    rcases mem_cons.mp hevent with rfl | hlater
    · exact ⟨_, record, rfl, hkind⟩
    · exact ih event hlater
  | fed _ ih => exact ih

/-- A call that fails has passed over all that it has met. -/
theorem Skips.mem_all {before : TlsStream} {left : List TransportRead} {last : List ReadEvent}
    {error : StreamError} (hskips : Skips crypto stream answers events before left)
    (hfails : Fails crypto before left last stop rest error) : PassedOver (events ++ last) := by
  intro event hevent
  rcases mem_append.mp hevent with hbefore | hafter
  · exact hskips.mem event hbefore
  · cases hfails with
    | reading hread => cases hafter
    | @handling stop reader record left error hread hkind hhandle =>
      exact ⟨_, record, mem_singleton.mp hafter, hkind⟩
    | transport message rest => cases hafter

theorem Fails.unread_eq {before : TlsStream} {left : List TransportRead} {last : List ReadEvent}
    {error : StreamError} (hfails : Fails crypto before left last stop rest error) :
    stop.unread = before.unread := by
  cases hfails with
  | reading hread => rfl
  | handling hread hkind hhandle =>
    have hsame := handleRecord_sameBuffers hkind hhandle
    rw [unread, hsame.readBuf_eq, hsame.readPos_eq, unread]
  | transport message rest => rfl

theorem PassedOver.not_mem (hevents : PassedOver events)
    (hevent : ∀ reader record, event ≠ .record reader record) : event ∉ events := by
  intro hmem
  obtain ⟨reader, record, heq, -⟩ := hevents event hmem
  exact hevent reader record heq

variable {events : List ReadEvent}

theorem appData_of_skipped (hevents : PassedOver events) :
    events.flatMap ReadEvent.appData = [] := by
  apply flatMap_eq_nil_iff.mpr
  intro event hevent
  obtain ⟨reader, record, rfl, hkind⟩ := hevents event hevent
  exact if_neg hkind

variable (hcall : Call crypto capacity stream answers events stop rest outcome)
include hcall

/-- What a call reports and what it leaves unread is what was unread and what it has taken. -/
theorem Call.accounts :
    ReadEvent.returned (.polled outcome) ++ stop.unread =
      stream.unread ++ events.flatMap ReadEvent.appData := by
  cases hcall with
  | buffered =>
    rw [flatMap_nil, append_nil]
    exact putSlice_append_unread stream capacity
  | @data before reader record events rest hread hskips hrecord hkind =>
    rw [unread_eq_nil hread, flatMap_append, appData_of_skipped hskips.mem, nil_append,
      nil_append, flatMap_singleton]
    have htaken : ReadEvent.appData (.record before.reader record) = record.payload := if_pos hkind
    rw [htaken]
    exact putSlice_append_unread _ capacity
  | ended hread hskips =>
    rw [flatMap_append, appData_of_skipped hskips.mem, hskips.unread_eq]
    exact (append_nil _).symm
  | pending hread hskips =>
    rw [appData_of_skipped hskips.mem, hskips.unread_eq]
    exact (append_nil _).symm
  | failed hread hskips hfails =>
    rw [appData_of_skipped (hskips.mem_all hfails), hfails.unread_eq, hskips.unread_eq]
    exact (append_nil _).symm

/-- The events that a call meets are not reports. -/
theorem Call.not_polled
    {report : Except StreamError (Poll Bytes)} : ReadEvent.polled report ∉ events := by
  cases hcall with
  | buffered => exact not_mem_nil
  | data hread hskips | ended hread hskips => simp [hskips.mem.not_mem]
  | pending hread hskips => exact hskips.mem.not_mem fun _ _ => ReadEvent.noConfusion
  | failed hread hskips hfails =>
    exact (hskips.mem_all hfails).not_mem fun _ _ => ReadEvent.noConfusion

theorem Call.returned_eq_nil : events.flatMap ReadEvent.returned = [] := by
  apply flatMap_eq_nil_iff.mpr
  intro event hevent
  cases event with
  | record reader record | ended => rfl
  | polled report => exact absurd hevent hcall.not_polled

/-- A call meets the end of the transport's stream only if the transport reports it. -/
theorem Call.ready_nil_mem
    (hended : ReadEvent.ended ∈ events) : TransportRead.ready [] ∈ answers := by
  cases hcall with
  | buffered => cases hended
  | data hread hskips => simp [hskips.mem.not_mem] at hended
  | ended hread hskips => exact hskips.suffix.subset mem_cons_self
  | pending hread hskips =>
    exact absurd hended (hskips.mem.not_mem fun _ _ => ReadEvent.noConfusion)
  | failed hread hskips hfails =>
    exact absurd hended ((hskips.mem_all hfails).not_mem fun _ _ => ReadEvent.noConfusion)

omit hcall

/-- Among the events of a call there is an empty record of application data. -/
def HasEmptyRecord (events : List ReadEvent) : Prop :=
  ∃ reader record, .record reader record ∈ events ∧
    record.contentType = ContentType.applicationData ∧ record.payload = []

theorem hasEmptyRecord_append :
    HasEmptyRecord (events ++ later) ↔ HasEmptyRecord events ∨ HasEmptyRecord later := by
  simp only [HasEmptyRecord, mem_append, or_and_right, exists_or]

theorem not_hasEmptyRecord_of_skipped (hevents : PassedOver events) : ¬ HasEmptyRecord events := by
  rintro ⟨reader, record, hmem, hkind, -⟩
  obtain ⟨_, _, heq, hother⟩ := hevents _ hmem
  cases heq
  exact hother hkind

/-- With room in its buffer and an open transport, a call reports no bytes exactly if it has taken
an empty record. -/
theorem Call.ready_nil_iff (hroom : 0 < capacity) (hopen : ReadEvent.ended ∉ events)
    (hcall : Call crypto capacity stream answers events stop rest outcome) :
    outcome = .ok (.ready []) ↔ HasEmptyRecord events := by
  cases hcall with
  | buffered hunread =>
    have hsome : stream.unread ≠ [] := by
      intro hnil
      exact absurd (drop_eq_nil_iff.mp hnil) (Nat.not_le.mpr hunread)
    simp [HasEmptyRecord, putSlice_eq_nil hroom, hsome]
  | @data before reader record events rest hread hskips hrecord hkind =>
    have htaken : HasEmptyRecord [.record before.reader record] ↔ record.payload = [] := by
      simp [HasEmptyRecord, hkind]
    rw [hasEmptyRecord_append, or_iff_right (not_hasEmptyRecord_of_skipped hskips.mem), htaken,
      Except.ok.injEq, Poll.ready.injEq, putSlice_eq_nil hroom, unread_filled]
  | ended => simp at hopen
  | pending hread hskips =>
    exact iff_of_false nofun (not_hasEmptyRecord_of_skipped hskips.mem)
  | failed hread hskips hfails =>
    exact iff_of_false nofun (not_hasEmptyRecord_of_skipped (hskips.mem_all hfails))

end Calls

/-! ## Runs -/

section Runs

variable {crypto : Primitives} {start stop : TlsStream} {events : List ReadEvent}

/-- In every run, the bytes returned and those left unread are the application data taken. -/
theorem PollRun.accounts (hrun : PollRun crypto start events stop) :
    events.flatMap ReadEvent.returned ++ stop.unread =
      start.unread ++ events.flatMap ReadEvent.appData := by
  induction hrun with
  | start => simp
  | call _ _ _ hcall ih =>
    rw [flatMap_append, flatMap_append, hcall.returned_eq_nil, append_nil,
      flatMap_singleton, append_assoc, hcall.accounts, ← append_assoc, ih,
      flatMap_append, flatMap_append, flatMap_singleton]
    simp [ReadEvent.appData]

/-- A report of no bytes, in a run on an open transport, is due to an empty record. -/
theorem PollRun.ready_nil_iff (hrun : PollRun crypto start events stop)
    (hopen : ReadEvent.ended ∉ events) :
    ReadEvent.polled (.ok (.ready [])) ∈ events ↔ HasEmptyRecord events := by
  induction hrun with
  | start => simp [HasEmptyRecord]
  | @call events met stream stop capacity answers rest outcome _ hroom _ hcall ih =>
    rw [mem_append, mem_append, not_or, not_or] at hopen
    have hreport : HasEmptyRecord [.polled outcome] ↔ False := by simp [HasEmptyRecord]
    rw [mem_append, mem_append, hasEmptyRecord_append, hasEmptyRecord_append, hreport,
      or_false, ih hopen.1.1, or_iff_left hcall.not_polled, mem_singleton, ReadEvent.polled.injEq,
      eq_comm, hcall.ready_nil_iff hroom hopen.1.2]

/-- **No premature end of stream, exactly if no record of application data is empty.** In every run
of reads on a transport that stays open, the bytes returned are a prefix of the application data in
the records taken, and no call reports the end of the stream exactly if no such record is empty. -/
theorem reads_prefix_and_no_end_iff_no_empty_record (hfresh : start.unread = [])
    (hrun : PollRun crypto start events stop) (hopen : ReadEvent.ended ∉ events) :
    events.flatMap ReadEvent.returned <+: events.flatMap ReadEvent.appData ∧
    (ReadEvent.polled (.ok (.ready [])) ∉ events ↔
      ∀ reader record, .record reader record ∈ events →
        record.contentType = ContentType.applicationData → record.payload ≠ []) := by
  constructor
  · have haccounts := hrun.accounts
    rw [hfresh, nil_append] at haccounts
    exact ⟨stop.unread, haccounts⟩
  · rw [hrun.ready_nil_iff hopen, HasEmptyRecord]
    push Not
    exact Iff.rfl

end Runs

end TlsStream

namespace Established

open TlsStream

/-- A record of application data is returned as it was sent. -/
theorem reads_hello :
    ∃ events stop, PollRun crypto stream events stop ∧
      ReadEvent.polled (.ok (.ready hello)) ∈ events ∧
      events.flatMap ReadEvent.returned <+: events.flatMap ReadEvent.appData ∧
      ∀ reader record, .record reader record ∈ events →
        record.contentType = ContentType.applicationData → record.payload ≠ [] := by
  have hpoll : pollRead crypto 16 [.ready (onWire sealedHello)] stream =
      (_, [], .ok (.ready hello)) := Prod.ext rfl (by decide +kernel)
  obtain ⟨met, hcall⟩ := pollRead_call hpoll
  have hopen : ReadEvent.ended ∉ met := fun hended =>
    absurd (hcall.ready_nil_mem hended) (by decide)
  have hreported := reads_prefix_and_no_end_iff_no_empty_record rfl
    (PollRun.start.call (by decide) hpoll hcall) (by simp [hopen])
  refine ⟨_, _, PollRun.start.call (by decide) hpoll hcall, by simp, hreported.1, hreported.2.mp ?_⟩
  simp [hcall.not_polled, hello]

/-- An empty record of application data is reported as the end of the stream. -/
theorem empty_record_reads_as_end :
    ∃ events stop, PollRun crypto stream events stop ∧ ReadEvent.ended ∉ events ∧
      ReadEvent.polled (.ok (.ready [])) ∈ events := by
  have hpoll : pollRead crypto 16 [.ready (onWire sealedEmpty)] stream =
      (_, [], .ok (.ready [])) := Prod.ext rfl (by decide +kernel)
  obtain ⟨met, hcall⟩ := pollRead_call hpoll
  have hopen : ReadEvent.ended ∉ met := fun hended =>
    absurd (hcall.ready_nil_mem hended) (by decide)
  exact ⟨_, _, PollRun.start.call (by decide) hpoll hcall, by simp [hopen], by simp⟩

end Established

namespace TlsStream

/-! ## The end of the stream -/

/-- A close_notify alert. -/
def IsCloseNotify (record : PlaintextRecord) : Prop :=
  record.contentType = ContentType.alert ∧ 2 ≤ record.payload.length ∧
    byteAt record.payload 1 = AlertDescription.closeNotify.asByte

/-- An authenticated close_notify is among the events. -/
def Closed (crypto : Primitives) (events : List ReadEvent) : Prop :=
  ∃ reader record, .record reader record ∈ events ∧ IsCloseNotify record ∧
    ∃ header rawPayload rest, reader.Framed header rawPayload rest ∧
      reader.Authentic crypto header rawPayload record

/-- What a report may be after some events: no bytes only after a close_notify, an error where the
transport ends without one, and no data after it. -/
structure TruthfulReport (crypto : Primitives) (before : List ReadEvent)
    (outcome : Except StreamError (Poll Bytes)) : Prop where
  clean : outcome = .ok (.ready []) → Closed crypto before
  cut : before.getLast? = some .ended → ¬ Closed crypto before → ∃ error, outcome = .error error
  final : ∀ bytes, outcome = .ok (.ready bytes) → bytes ≠ [] → ¬ Closed crypto before

/-- Every report of a run is truthful about the end of the stream. -/
def Truthful (crypto : Primitives) : List ReadEvent → Prop :=
  Along fun before event => ∀ outcome, event = .polled outcome →
    TruthfulReport crypto before outcome

/-- The server closes before the transport ends, and sends application data before that, and not
after it. -/
def WellClosed (crypto : Primitives) : List ReadEvent → Prop :=
  Along fun before event =>
    match event with
    | .ended => Closed crypto before
    | .record _ record => record.contentType = ContentType.applicationData →
        (record.payload = [] ↔ Closed crypto before)
    | .polled _ => True

section Ends

variable {crypto : Primitives} {capacity : Nat} {stream stop : TlsStream}
  {answers rest : List TransportRead} {events met : List ReadEvent}
  {outcome : Except StreamError (Poll Bytes)} {skipped : List ReadEvent}

theorem closed_concat
    (hevent : ∀ reader record, event = .record reader record → ¬ IsCloseNotify record) :
    Closed crypto (events ++ [event]) ↔ Closed crypto events := by
  constructor
  · rintro ⟨reader, record, hmem, hclose, hauthentic⟩
    rcases mem_append.mp hmem with hbefore | hlast
    · exact ⟨reader, record, hbefore, hclose, hauthentic⟩
    · exact absurd hclose (hevent reader record (mem_singleton.mp hlast).symm)
  · rintro ⟨reader, record, hmem, hclosed⟩
    exact ⟨reader, record, mem_append_left _ hmem, hclosed⟩

theorem not_isCloseNotify_of_applicationData {record : PlaintextRecord}
    (hkind : record.contentType = ContentType.applicationData) : ¬ IsCloseNotify record := by
  rintro ⟨halert, -⟩
  rw [hkind] at halert
  cases halert

/-- Records that are passed over have no part in the condition. -/
theorem wellClosed_append_skipped (hskipped : PassedOver skipped) :
    WellClosed crypto (events ++ skipped) ↔ WellClosed crypto events := by
  apply along_append_of_forall
  intro event hevent before
  obtain ⟨_, _, rfl, hkind⟩ := hskipped event hevent
  exact fun happlication => absurd happlication hkind

theorem getLast?_ne_ended (hlast : events.getLast? ≠ some .ended) (hskipped : PassedOver skipped) :
    (events ++ skipped).getLast? ≠ some .ended := by
  intro hended
  rw [List.getLast?_append] at hended
  cases hfinal : skipped.getLast? with
  | none =>
    rw [hfinal, none_or] at hended
    exact hlast hended
  | some event =>
    rw [hfinal, some_or, some.injEq] at hended
    subst hended
    exact absurd (mem_of_getLast? hfinal) (hskipped.not_mem fun _ _ => ReadEvent.noConfusion)

/-- The report of a call is truthful exactly if what the call has met is as it should be. -/
theorem Call.truthful_iff (hroom : 0 < capacity)
    (hcall : Call crypto capacity stream answers met stop rest outcome)
    (hlast : events.getLast? ≠ some .ended) (hclosed : WellClosed crypto events)
    (hunread : stream.unread ≠ [] → ¬ Closed crypto events) :
    TruthfulReport crypto (events ++ met) outcome ↔ WellClosed crypto (events ++ met) := by
  cases hcall with
  | buffered hsome =>
    have hbytes : stream.unread ≠ [] := by
      intro hnil
      exact absurd (drop_eq_nil_iff.mp hnil) (Nat.not_le.mpr hsome)
    rw [append_nil]
    refine iff_of_true ⟨?_, fun hended => absurd hended hlast, ?_⟩ hclosed
    · intro hnone
      rw [Except.ok.injEq, Poll.ready.injEq, putSlice_eq_nil hroom] at hnone
      exact absurd hnone hbytes
    · intro _ _ _
      exact hunread hbytes
  | @data before reader record skipped rest hread hskips hrecord hkind =>
    have hsame : Closed crypto (events ++ skipped ++ [.record before.reader record]) ↔
        Closed crypto (events ++ skipped) := by
      apply closed_concat
      rintro _ _ ⟨⟩
      exact not_isCloseNotify_of_applicationData hkind
    have hput : ((before.filled reader record.payload).putSlice capacity).2 = [] ↔
        record.payload = [] := putSlice_eq_nil hroom
    rw [← append_assoc, WellClosed, along_concat]
    constructor
    · intro hreport
      refine ⟨(wellClosed_append_skipped hskips.mem).mpr hclosed, ?_⟩
      intro _
      constructor
      · intro hempty
        exact hsame.mp (hreport.clean (by rw [hput.mpr hempty]))
      · intro hbefore
        by_contra hpayload
        exact hreport.final _ rfl (fun hnil => hpayload (hput.mp hnil)) (hsame.mpr hbefore)
    · rintro ⟨-, hat⟩
      refine ⟨?_, ?_, ?_⟩
      · intro hnone
        rw [Except.ok.injEq, Poll.ready.injEq, hput] at hnone
        exact hsame.mpr ((hat hkind).mp hnone)
      · intro hended
        simp at hended
      · rintro bytes ⟨⟩ hbytes hbefore
        exact hbytes (hput.mpr ((hat hkind).mpr (hsame.mp hbefore)))
  | @ended stop skipped rest hread hskips =>
    have hsame : Closed crypto (events ++ skipped ++ [.ended]) ↔
        Closed crypto (events ++ skipped) := closed_concat fun _ _ => ReadEvent.noConfusion
    rw [← append_assoc, WellClosed, along_concat]
    constructor
    · intro hreport
      exact ⟨(wellClosed_append_skipped hskips.mem).mpr hclosed, hsame.mp (hreport.clean rfl)⟩
    · rintro ⟨-, hbefore⟩
      refine ⟨fun _ => hsame.mpr hbefore, ?_, ?_⟩
      · intro _ hnot
        exact absurd (hsame.mpr hbefore) hnot
      · rintro bytes ⟨⟩ hbytes
        exact absurd rfl hbytes
  | pending hread hskips =>
    refine iff_of_true ⟨nofun, ?_, nofun⟩ ((wellClosed_append_skipped hskips.mem).mpr hclosed)
    intro hended
    exact absurd hended (getLast?_ne_ended hlast hskips.mem)
  | @failed before stop skipped last left rest error hread hskips hfails =>
    exact iff_of_true ⟨nofun, fun _ _ => ⟨error, rfl⟩, nofun⟩
      ((wellClosed_append_skipped (hskips.mem_all hfails)).mpr hclosed)

/-- Unread data after a call that has met what it should belongs before a close. -/
theorem Call.not_closed (hcall : Call crypto capacity stream answers met stop rest outcome)
    (hunread : stream.unread ≠ [] → ¬ Closed crypto events)
    (hclosed : WellClosed crypto (events ++ met)) (hsome : stop.unread ≠ []) :
    ¬ Closed crypto (events ++ met) := by
  cases hcall with
  | buffered hmore =>
    rw [append_nil]
    apply hunread
    intro hnil
    exact absurd (drop_eq_nil_iff.mp hnil) (Nat.not_le.mpr hmore)
  | @data before reader record skipped rest hread hskips hrecord hkind =>
    have hpayload : record.payload ≠ [] := by
      intro hnil
      have hparts := putSlice_append_unread (before.filled reader record.payload) capacity
      exact hsome (append_eq_nil_iff.mp (hparts.trans hnil)).2
    rw [← append_assoc, closed_concat]
    · intro hbefore
      have hat := hclosed (events ++ skipped) _ [] (append_assoc _ _ _).symm
      exact hpayload ((hat hkind).mpr hbefore)
    · rintro _ _ ⟨⟩
      exact not_isCloseNotify_of_applicationData hkind
  | ended hread hskips | pending hread hskips =>
    rw [hskips.unread_eq, unread_eq_nil hread] at hsome
    exact absurd rfl hsome
  | failed hread hskips hfails =>
    rw [hfails.unread_eq, hskips.unread_eq, unread_eq_nil hread] at hsome
    exact absurd rfl hsome

variable {start : TlsStream}

/-- The invariant of runs behind the end of the stream. -/
theorem PollRun.truthful_iff (hfresh : start.unread = [])
    (hrun : PollRun crypto start events stop) :
    (Truthful crypto events ↔ WellClosed crypto events) ∧
      (WellClosed crypto events → stop.unread ≠ [] → ¬ Closed crypto events) ∧
      events.getLast? ≠ some .ended := by
  induction hrun with
  | start =>
    exact ⟨iff_of_true (along_nil _) (along_nil _), fun _ hsome => absurd hfresh hsome, by simp⟩
  | @call events met stream stop capacity answers rest outcome _ hroom _ hcall ih =>
    obtain ⟨hiff, hunread, hlast⟩ := ih
    have hreported : Truthful crypto (events ++ met ++ [.polled outcome]) ↔
        Truthful crypto events ∧ TruthfulReport crypto (events ++ met) outcome := by
      rw [Truthful, along_concat, along_append_of_forall]
      · simp
      · rintro event hevent before report rfl
        exact absurd hevent hcall.not_polled
    have hmet : WellClosed crypto (events ++ met ++ [.polled outcome]) ↔
        WellClosed crypto (events ++ met) := by
      rw [WellClosed, along_concat]
      exact and_iff_left trivial
    have hsame : Closed crypto (events ++ met ++ [.polled outcome]) ↔
        Closed crypto (events ++ met) := closed_concat fun _ _ => ReadEvent.noConfusion
    refine ⟨?_, ?_, by simp⟩
    · rw [hreported, hmet]
      constructor
      · rintro ⟨htruthful, hreport⟩
        have hclosed := hiff.mp htruthful
        exact (hcall.truthful_iff hroom hlast hclosed (hunread hclosed)).mp hreport
      · intro hwell
        have hclosed : WellClosed crypto events := hwell.of_append
        exact ⟨hiff.mpr hclosed,
          (hcall.truthful_iff hroom hlast hclosed (hunread hclosed)).mpr hwell⟩
    · rw [hmet, hsame]
      intro hwell hsome
      exact hcall.not_closed (hunread hwell.of_append) hwell hsome

/-- **The end of the stream is truthful exactly if the peer closes properly.** In every run of
reads, every report is truthful about the end of the stream exactly if the transport ends after an
authenticated close_notify and application data comes before it, not empty, and not after it. In
truthful runs, one that reports the end looks to its caller like no run without a close_notify. -/
theorem truthful_iff_wellClosed (hfresh : start.unread = [])
    (hrun : PollRun crypto start events stop) :
    (Truthful crypto events ↔ WellClosed crypto events) ∧
    ∀ others last, PollRun crypto start others last → WellClosed crypto others →
      ¬ Closed crypto others → ReadEvent.polled (.ok (.ready [])) ∈ events →
      events.flatMap ReadEvent.reports ≠ others.flatMap ReadEvent.reports := by
  refine ⟨(hrun.truthful_iff hfresh).1, ?_⟩
  intro others last hothers hwell hopen hend heq
  have hreported : .ok (.ready []) ∈ others.flatMap ReadEvent.reports := by
    rw [← heq]
    exact mem_flatMap.mpr ⟨_, hend, mem_singleton_self _⟩
  obtain ⟨event, hevent, hreport⟩ := mem_flatMap.mp hreported
  cases event with
  | record reader record | ended => cases hreport
  | polled outcome =>
    cases mem_singleton.mp hreport
    obtain ⟨before, after, rfl⟩ := append_of_mem hevent
    have htruthful := (hothers.truthful_iff hfresh).1.mpr hwell
    obtain ⟨reader, record, hmem, hclosed⟩ := (htruthful before _ after rfl _ rfl).clean rfl
    exact hopen ⟨reader, record, mem_append_left _ hmem, hclosed⟩

end Ends

end TlsStream

namespace Established

open TlsStream

/-- The connection with the sealed hello in its buffer, and after the hello has been returned. -/
def received : TlsStream := stream.feed (onWire sealedHello)

def greeted : TlsStream :=
  ((received.filled (received.reader.nextRecord crypto).1 hello).putSlice 16).1

def greeting : List ReadEvent :=
  [.record received.reader ⟨ContentType.applicationData, hello⟩, .polled (.ok (.ready hello))]

theorem run_greeting : PollRun crypto stream greeting greeted := by
  have hrecord : received.reader.nextRecord crypto =
      (_, .ok (some ⟨ContentType.applicationData, hello⟩)) := Prod.ext rfl (by decide +kernel)
  have hcall : Call crypto 16 stream [.ready (onWire sealedHello)]
      ([] ++ [.record received.reader ⟨ContentType.applicationData, hello⟩]) greeted []
      (.ok (.ready hello)) :=
    .data (by decide) (skips_fed (by decide)) hrecord rfl
  exact PollRun.start.call (by decide) (by decide +kernel) hcall

/-- The connection with the sealed close_notify in its buffer, and after it has been read. -/
def closing : TlsStream := greeted.feed (onWire sealedSecondClose)

def closed : TlsStream := { closing with reader := (closing.reader.nextRecord crypto).1 }

def farewell : ReadEvent := .record closing.reader ⟨ContentType.alert, closeNotify⟩

theorem read_farewell : closing.reader.nextRecord crypto =
    (closed.reader, .ok (some ⟨ContentType.alert, closeNotify⟩)) :=
  Prod.ext rfl (by decide +kernel)

theorem run_farewell :
    PollRun crypto stream (greeting ++ [farewell, .ended, .polled (.ok (.ready []))]) closed := by
  have hhandle : handleRecord crypto ⟨ContentType.alert, closeNotify⟩ closed =
      (closed, .ok (some false)) := by decide +kernel
  have hskips : Skips crypto greeted [.ready (onWire sealedSecondClose), .ready []] [farewell]
      closed [.ready []] :=
    (skips_fed (by decide)).trans (.record read_farewell (by decide) hhandle (.refl _ _))
  have hcall : Call crypto 16 greeted [.ready (onWire sealedSecondClose), .ready []]
      ([farewell] ++ [.ended]) closed [] (.ok (.ready [])) := .ended (by decide +kernel) hskips
  exact run_greeting.call (by decide) (by decide +kernel) hcall

theorem closed_farewell {before : List ReadEvent} : Closed crypto (before ++ [farewell]) := by
  have hframed : closing.reader.Framed ⟨ContentType.applicationData, 0x0303, 0x13⟩
      sealedSecondClose [] := ⟨by decide +kernel, by decide, by decide +kernel⟩
  have hauthentic := (RecordReader.nextRecord_eq_ok (by decide +kernel) hframed
    read_farewell).resolve_right (fun hunopened => hunopened.2.1 rfl)
  exact ⟨_, _, mem_append_right _ (mem_singleton_self _), ⟨rfl, by decide, by decide⟩,
    _, _, _, hframed, hauthentic⟩

/-- Among records of application data there is no close_notify. -/
theorem not_closed_greeting (hlater : ∀ reader record, ReadEvent.record reader record ∉ later) :
    ¬ Closed crypto (greeting ++ later) := by
  rintro ⟨reader, record, hmem, hclose, -⟩
  rcases mem_append.mp hmem with hgreeting | hmore
  · simp only [greeting, mem_cons, ReadEvent.record.injEq, reduceCtorEq, not_mem_nil,
      or_false] at hgreeting
    rw [hgreeting.2] at hclose
    exact absurd hclose.1 (by decide)
  · exact hlater reader record hmore

/-- Data, a close_notify and the transport's end are reported as they are. -/
theorem farewell_truthful :
    Truthful crypto (greeting ++ [farewell, .ended, .polled (.ok (.ready []))]) := by
  apply (truthful_iff_wellClosed rfl run_farewell).1.mpr
  have hdata : WellClosed crypto ([] ++ [.record received.reader
      ⟨ContentType.applicationData, hello⟩]) :=
    along_concat.mpr ⟨along_nil _, fun _ => iff_of_false (by decide) (by simp [Closed])⟩
  have hhello : WellClosed crypto greeting :=
    (along_concat.mpr ⟨hdata, trivial⟩ : WellClosed crypto
      ([.record received.reader ⟨ContentType.applicationData, hello⟩] ++
        [.polled (.ok (.ready hello))]))
  have hclose : WellClosed crypto (greeting ++ [farewell]) :=
    along_concat.mpr ⟨hhello, fun hkind => absurd hkind (by decide)⟩
  have hend : WellClosed crypto (greeting ++ [farewell] ++ [.ended]) :=
    along_concat.mpr ⟨hclose, closed_farewell⟩
  exact along_concat.mpr ⟨hend, trivial⟩

/-- The transport's end after a record of data is reported as the end of the stream, without a
close_notify. -/
theorem cut_reads_as_end :
    ∃ events stop, PollRun crypto stream events stop ∧ ¬ Truthful crypto events ∧
      ReadEvent.polled (.ok (.ready hello)) ∈ events ∧
      ReadEvent.polled (.ok (.ready [])) ∈ events ∧ ¬ Closed crypto events := by
  have hcall : Call crypto 16 greeted [.ready []] ([] ++ [.ended]) greeted [] (.ok (.ready [])) :=
    .ended (by decide +kernel) (.refl _ _)
  have hrun := run_greeting.call (by decide) (by decide +kernel) hcall
  refine ⟨_, greeted, hrun, ?_, by simp [greeting], by simp, ?_⟩
  · intro htruthful
    have hclean := (htruthful (greeting ++ [.ended]) _ [] rfl _ rfl).clean rfl
    exact not_closed_greeting (by simp) hclean
  · exact not_closed_greeting (by simp)

end Established

end LkRequest.Stream
