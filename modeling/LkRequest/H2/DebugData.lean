import LkRequest.H2.Driver
import Mathlib.Data.List.Forall2

/-!
# Runs that differ in GOAWAY debug data

Two runs of the driver whose inputs differ only in the debug data of GOAWAY frames send the same
messages to the same requests, up to that data inside the text of a GOAWAY error.
-/

namespace LkRequest.H2

open Library List

/-- Two errors that differ at most in debug data that stand in the relation. -/
inductive DriverError.SameUpTo (related : Bytes → Bytes → Prop) : DriverError → DriverError → Prop
  | refl (error : DriverError) : SameUpTo related error error
  | goAway (errorCode : Nat) {left right : Bytes} (hdata : related left right) :
      SameUpTo related (.goAway (Driver.goAwayMessage errorCode left))
        (.goAway (Driver.goAwayMessage errorCode right))

inductive Message.SameUpTo (related : Bytes → Bytes → Prop) : Message → Message → Prop
  | refl (message : Message) : SameUpTo related message message
  | headers {left right : DriverError} (herror : left.SameUpTo related right) :
      SameUpTo related (.headers (.error left)) (.headers (.error right))
  | body {left right : DriverError} (herror : left.SameUpTo related right) :
      SameUpTo related (.body (.error left)) (.body (.error right))

/-- A message for the same request on the same channel. -/
def SentSame (related : Bytes → Bytes → Prop) (left right : RequestId × Message) : Prop :=
  left.1 = right.1 ∧ left.2.SameUpTo related right.2

inductive H2Event.SameUpTo (related : Bytes → Bytes → Prop) : H2Event → H2Event → Prop
  | refl (event : H2Event) : SameUpTo related event event
  | goAway (lastStreamId : StreamId) (errorCode : Nat) {left right : Bytes}
      (hdata : errorCode ≠ 0 → related left right) :
      SameUpTo related (.goAway lastStreamId errorCode left) (.goAway lastStreamId errorCode right)

inductive Driver.Input.SameUpTo (related : Bytes → Bytes → Prop) : Input → Input → Prop
  | refl (input : Input) : SameUpTo related input input
  | received {left right : List H2Event} (replyFailed : Option Text)
      (hevents : List.Forall₂ (H2Event.SameUpTo related) left right) :
      SameUpTo related (.received left replyFailed) (.received right replyFailed)

/-- Two turns that differ at most in debug data. -/
def SameTurn (related : Bytes → Bytes → Prop)
    (left right : Driver.Input × Driver.Circumstances) : Prop :=
  left.1.SameUpTo related right.1 ∧ left.2 = right.2

namespace Driver

variable {related : Bytes → Bytes → Prop}

/-- Two drivers in the same state that have sent the same messages, up to debug data. -/
structure Same (related : Bytes → Bytes → Prop) (left right : Driver) : Prop where
  pending : left.pending = right.pending
  waiting : left.waiting = right.waiting
  shutdown : left.shutdown = right.shutdown
  exited : left.exited = right.exited
  sent : List.Forall₂ (SentSame related) left.sent right.sent

theorem Same.refl (driver : Driver) : Same related driver driver :=
  ⟨rfl, rfl, rfl, rfl, forall₂_same.mpr fun _ _ => ⟨rfl, .refl _⟩⟩

/-! ## Sending -/

variable {left right : Driver}

variable (hsame : Same related left right) {leftError rightError error : DriverError}
  {request : RequestId} {streamId : StreamId} {stream : PendingStream}
include hsame

theorem Same.send {leftMessages rightMessages : List Message}
    (hmessages : List.Forall₂ (Message.SameUpTo related) leftMessages rightMessages) :
    Same related (left.send request leftMessages) (right.send request rightMessages) where
  __ := hsame
  sent := by
    apply rel_append hsame.sent
    rw [forall₂_map_left_iff, forall₂_map_right_iff]
    exact hmessages.imp fun _ _ hmessage => ⟨rfl, hmessage⟩

theorem Same.sendSame {messages : List Message} :
    Same related (left.send request messages) (right.send request messages) :=
  hsame.send (forall₂_same.mpr fun _ _ => .refl _)

omit hsame in
theorem failure_same (herror : leftError.SameUpTo related rightError) : List.Forall₂
    (Message.SameUpTo related) (failure stream leftError) (failure stream rightError) := by
  rw [failure, failure]
  cases stream.headersOpen with
  | true => exact .cons (.headers herror) (.cons (.body herror) .nil)
  | false => exact .cons (.body herror) .nil

/-- A loop of sends keeps two drivers the same. -/
theorem Same.foldl {α : Type} {items : List α} {leftStep rightStep : Driver → α → Driver}
    (hstep : ∀ left right item, Same related left right →
      Same related (leftStep left item) (rightStep right item)) :
    Same related (items.foldl leftStep left) (items.foldl rightStep right) := by
  induction items generalizing left right with
  | nil => exact hsame
  | cons item rest ih => exact ih (hstep left right item hsame)

theorem Same.notifyAllError (herror : leftError.SameUpTo related rightError) :
    Same related (left.notifyAllError leftError) (right.notifyAllError rightError) := by
  have hsent : Same related
      (left.pending.foldl (fun failed entry =>
        failed.send entry.2.request (failure entry.2 leftError)) left)
      (right.pending.foldl (fun failed entry =>
        failed.send entry.2.request (failure entry.2 rightError)) right) := by
    rw [hsame.pending]
    exact hsame.foldl fun _ _ _ h => h.send (failure_same herror)
  exact { hsent with pending := rfl }

theorem Same.notifyWaitingError (herror : leftError.SameUpTo related rightError) :
    Same related (left.notifyWaitingError leftError) (right.notifyWaitingError rightError) := by
  have hsent : Same related
      (left.waiting.foldl (fun failed request =>
        failed.send request (failure ⟨request, true⟩ leftError)) left)
      (right.waiting.foldl (fun failed request =>
        failed.send request (failure ⟨request, true⟩ rightError)) right) := by
    rw [hsame.waiting]
    exact hsame.foldl fun _ _ _ h => h.send (failure_same herror)
  exact { hsent with waiting := rfl }

theorem Same.failConnection :
    Same related (left.failConnection error) (right.failConnection error) := by
  have hfailed := (hsame.notifyAllError (.refl error)).notifyWaitingError (.refl error)
  exact { hfailed with exited := rfl }

theorem Same.remove : Same related (left.remove streamId) (right.remove streamId) :=
  { hsame with pending := by rw [Driver.remove, Driver.remove, hsame.pending] }

theorem Same.insert : Same related (left.insert streamId stream) (right.insert streamId stream) :=
  { hsame with pending := by rw [Driver.insert, Driver.insert, hsame.pending] }

theorem Same.find : left.find streamId = right.find streamId := by
  rw [Driver.find, Driver.find, hsame.pending]

/-! ## Events -/

theorem Same.rejectStale :
    Same related (left.rejectStale streamId) (right.rejectStale streamId) := by
  rw [Driver.rejectStale, Driver.rejectStale, hsame.pending]
  apply hsame.foldl
  intro left right entry hentry
  by_cases hstale : streamId < entry.1
  · rw [if_pos hstale, if_pos hstale]
    exact hentry.remove.sendSame
  · rw [if_neg hstale, if_neg hstale]
    exact hentry

theorem Same.handleEvent
    {leftEvent rightEvent : H2Event} (hevent : leftEvent.SameUpTo related rightEvent) :
    Same related (left.handleEvent leftEvent) (right.handleEvent rightEvent) := by
  cases hevent with
  | goAway lastStreamId errorCode hdata =>
    by_cases hcode : errorCode = 0
    · simp only [Driver.handleEvent, hcode, ne_eq, not_true_eq_false, if_false]
      exact hsame.rejectStale
    · simp only [Driver.handleEvent, ne_eq, hcode, not_false_eq_true, if_true]
      exact hsame.notifyAllError (.goAway errorCode (hdata hcode))
  | refl =>
    cases leftEvent with
    | responseHeaders streamId headers endStream =>
      simp only [Driver.handleEvent, hsame.find]
      cases right.find streamId with
      | none => exact hsame
      | some stream =>
        dsimp only
        split
        · exact hsame
        · split
          · exact hsame.insert.sendSame.remove
          · exact hsame.insert.sendSame
    | responseData streamId data endStream =>
      simp only [Driver.handleEvent, hsame.find]
      cases right.find streamId with
      | none => exact hsame
      | some stream =>
        dsimp only
        split
        · exact hsame.sendSame.remove
        · exact hsame.sendSame
    | streamReset streamId errorCode =>
      simp only [Driver.handleEvent, hsame.find]
      cases right.find streamId with
      | none => exact hsame
      | some stream => exact hsame.remove.sendSame
    | goAway lastStreamId errorCode debugData =>
      by_cases hcode : errorCode = 0
      · simp only [Driver.handleEvent, hcode, ne_eq, not_true_eq_false, if_false]
        exact hsame.rejectStale
      · simp only [Driver.handleEvent, ne_eq, hcode, not_false_eq_true, if_true]
        exact hsame.notifyAllError (.refl _)
    | settingsAcked | localSettingsAcked | pingAck | windowUpdate | error => exact hsame

theorem Same.handleEvents {leftEvents rightEvents : List H2Event}
    (hevents : List.Forall₂ (H2Event.SameUpTo related) leftEvents rightEvents) :
    Same related (left.handleEvents leftEvents) (right.handleEvents rightEvents) := by
  induction hevents generalizing left right with
  | nil => exact hsame
  | cons hevent _ ih => exact ih (hsame.handleEvent hevent)

/-! ## Turns -/

theorem Same.withWaiting {waiting : List RequestId} :
    Same related { left with waiting := waiting } { right with waiting := waiting } :=
  { hsame with waiting := rfl }

theorem Same.dispatchLoop
    (canceled : List RequestId) (slots : List Slot) (waiting : List RequestId) :
    Same related (dispatchLoop canceled slots waiting left).1
        (dispatchLoop canceled slots waiting right).1 ∧
      (dispatchLoop canceled slots waiting left).2 =
        (dispatchLoop canceled slots waiting right).2 := by
  induction waiting generalizing slots left right with
  | nil => cases slots <;> exact ⟨hsame.withWaiting, rfl⟩
  | cons request rest ih =>
    cases slots with
    | nil => exact ⟨hsame.withWaiting, rfl⟩
    | cons slot slots =>
      by_cases hcanceled : request ∈ canceled
      · simp only [Driver.dispatchLoop, hcanceled, if_true]
        exact ih hsame (slot :: slots)
      · cases hwrite : slot.writeFailed with
        | none =>
          simp only [Driver.dispatchLoop, hcanceled, if_false, hwrite]
          exact ih hsame.insert slots
        | some message =>
          simp only [Driver.dispatchLoop, hcanceled, if_false, hwrite]
          exact ⟨hsame.withWaiting.remove.sendSame, trivial⟩

theorem Same.dispatchWaitingRequests (circumstances : Circumstances) :
    Same related (left.dispatchWaitingRequests circumstances).1
        (right.dispatchWaitingRequests circumstances).1 ∧
      (left.dispatchWaitingRequests circumstances).2 =
        (right.dispatchWaitingRequests circumstances).2 := by
  rw [Driver.dispatchWaitingRequests, Driver.dispatchWaitingRequests]
  by_cases hdraining : circumstances.draining
  · rw [if_pos hdraining, if_pos hdraining]
    exact ⟨hsame.notifyWaitingError (.refl _), rfl⟩
  · rw [if_neg hdraining, if_neg hdraining, hsame.waiting]
    exact hsame.dispatchLoop _ _ _

theorem Same.select
    {leftInput rightInput : Input} (hinput : leftInput.SameUpTo related rightInput) :
    Same related (left.select leftInput) (right.select rightInput) := by
  cases hinput with
  | received replyFailed hevents =>
    cases replyFailed with
    | none => exact hsame.handleEvents hevents
    | some message => exact hsame.failConnection
  | refl =>
    cases leftInput with
    | cancelled request =>
      simp only [Driver.select, hsame.waiting]
      exact hsame.withWaiting
    | closed | readFailed => exact hsame.failConnection
    | received events replyFailed =>
      cases replyFailed with
      | none => exact hsame.handleEvents (forall₂_same.mpr fun _ _ => .refl _)
      | some message => exact hsame.failConnection
    | command request canceled =>
      simp only [Driver.select, hsame.shutdown, hsame.waiting]
      split
      · exact hsame
      · exact ⟨hsame.pending, rfl, rfl, hsame.exited, hsame.sent⟩
    | shutdown =>
      exact ⟨hsame.pending, hsame.waiting, rfl,
        by simp only [Driver.select, hsame.pending, hsame.waiting, hsame.exited], hsame.sent⟩
    | shutdownTimeout =>
      simp only [Driver.select, hsame.shutdown]
      split
      · exact hsame.failConnection
      · exact hsame

theorem Same.turn
    {leftStep rightStep : Input × Circumstances} (hstep : SameTurn related leftStep rightStep) :
    Same related (left.turn leftStep) (right.turn rightStep) := by
  have hselect := hsame.select hstep.1
  have hdispatch := hselect.dispatchWaitingRequests rightStep.2
  simp only [Driver.turn, hsame.exited, hselect.exited, hstep.2, hdispatch.2,
    hdispatch.1.shutdown, hdispatch.1.pending, hdispatch.1.waiting]
  split
  · exact hsame
  · split
    · exact hselect
    · split
      · exact hdispatch.1.failConnection
      · split
        · exact ⟨rfl, rfl, rfl, rfl, hdispatch.1.sent⟩
        · exact hdispatch.1

/-- Two runs from one state whose turns differ at most in related debug data. -/
theorem Same.run {leftSteps rightSteps : List (Input × Circumstances)}
    (hsteps : List.Forall₂ (SameTurn related) leftSteps rightSteps) :
    Same related (left.run leftSteps) (right.run rightSteps) := by
  induction hsteps generalizing left right with
  | nil => exact hsame
  | cons hstep _ ih => exact ih (hsame.turn hstep)

end Driver

end LkRequest.H2
