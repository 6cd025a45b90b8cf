import LkRequest.Client.Error
import LkRequest.H2.DebugData

/-!
# Replay decisions on HTTP/2 errors

The adapters of `transport.rs`, `streaming.rs` and `response.rs` render a driver error into a text,
and `error.rs` reads the text back to decide whether the connection was closed and whether the
request may be replayed. The text of a GOAWAY error holds the debug data of the peer.
-/

namespace LkRequest.Client

open Library H2 List Text Option DriverError

/-! ## The adapters -/

/-- Where a request meets an error of its driver. -/
inductive H2Context where
  /-- Waiting for the response headers on a ready connection. -/
  | response
  /-- Waiting for the response to the request written with the preface. -/
  | firstResponse
  /-- Reading the body of a buffered response. -/
  | body
  /-- Reading the body of the response to the request written with the preface. -/
  | firstBody
  /-- Reading a chunk of a streamed response. -/
  | chunk

namespace H2Context

/-- The text that the adapter puts before the error. -/
def label : H2Context → Text
  | response => "failed to receive H2 response: ".toList
  | firstResponse => "first request response failed: ".toList
  | body | firstBody => "error reading response body: ".toList
  | chunk => []

/-- The error that the request gets. -/
def requestError (context : H2Context) (error : DriverError) : Error :=
  match context with
  | response | body | chunk =>
    .h2OrConnectionClosed .httpRequest (context.label ++ error.display)
  | firstResponse | firstBody => .h2 (context.label ++ error.display)

end H2Context

/-! ## Texts that hold a number and debug data -/

theorem lower_append (left right : Text) : lower (left ++ right) = lower left ++ lower right :=
  map_append

theorem lower_cons (c : Char) (text : Text) : lower (c :: text) = c.toLower :: lower text :=
  rfl

variable {c : Char} {needle : Text} {label start head digits : Text}

/-- A text with a character other than a digit does not occur in a number. -/
theorem not_infix_ofNat (hc : c ∈ needle) (hdigit : ¬ c.isDigit)
    (n : Nat) : ¬ needle <:+: lower (ofNat n) := by
  intro hoccurs
  obtain ⟨digit, hmem, hlower⟩ := mem_map.mp (hoccurs.subset hc)
  have hisDigit := isDigit_of_mem_ofNat hmem
  have hsame : digit.toLower = digit := by
    simp only [Char.isDigit, Bool.and_eq_true, decide_eq_true_eq] at hisDigit
    apply dif_neg
    rintro ⟨hupper, -⟩
    exact absurd (UInt32.le_trans hupper hisDigit.2) (by decide)
  apply hdigit
  rw [← hlower, hsame]
  exact hisDigit

theorem lower_goAwayParts {code comma debug data : Text}
    (hhead : start ++ code = head ++ ['=']) (hcomma : comma = ',' :: debug ++ ['='])
    (hdebug : lower debug = debug) :
    lower (label ++ (start ++ (code ++ digits ++ comma ++ data))) =
      lower (label ++ head) ++ '=' ::
        ((lower digits ++ ',' :: debug) ++ '=' :: lower data) := by
  have hsigns : Char.toLower '=' = '=' ∧ Char.toLower ',' = ',' := by decide
  have hassoc : start ++ (code ++ digits ++ comma ++ data) =
      (start ++ code) ++ digits ++ comma ++ data := by
    simp only [append_assoc]
  rw [hassoc, hhead, hcomma]
  simp only [lower_append, lower_cons, hdebug, hsigns, append_assoc, cons_append, nil_append]

theorem lower_resetParts (hhead : start = head ++ ['=']) : lower (label ++ (start ++ digits)) =
      lower (label ++ head) ++ '=' :: lower digits := by
  have hsign : Char.toLower '=' = '=' := by decide
  rw [hhead]
  simp only [lower_append, lower_cons, hsign, append_assoc, cons_append, nil_append]

/-- A text without `=` and `,` occurs in the text of a GOAWAY error where the fixed parts hold it
or the debug data do. -/
theorem infix_goAway_iff (hequals : '=' ∉ needle) (hcomma : ',' ∉ needle)
    (hc : c ∈ needle) (hdigit : ¬ c.isDigit) (label : Text) (errorCode : Nat) (debugData : Bytes) :
    needle <:+: lower
        (label ++ (goAway (Driver.goAwayMessage errorCode debugData)).display) ↔
      needle <:+: lower (label ++ "GOAWAY: error_code".toList) ∨
        needle <:+: " debug".toList ∨
        needle <:+: lower (fromUtf8Lossy debugData) := by
  have htext : lower
      (label ++ (goAway (Driver.goAwayMessage errorCode debugData)).display) =
      lower (label ++ "GOAWAY: error_code".toList) ++ '=' ::
        ((lower (ofNat errorCode) ++ ',' :: " debug".toList) ++ '=' ::
          lower (fromUtf8Lossy debugData)) :=
    lower_goAwayParts (by decide) (by decide) (by decide)
  rw [htext, infix_append_cons_iff hequals, infix_append_cons_iff hequals,
    infix_append_cons_iff hcomma]
  simp only [not_infix_ofNat hc hdigit, false_or]

theorem infix_streamReset_iff (hequals : '=' ∉ needle)
    (hc : c ∈ needle) (hdigit : ¬ c.isDigit) {label : Text} {errorCode : Nat} :
    needle <:+: lower (label ++ (streamReset errorCode).display) ↔
      needle <:+: lower (label ++ "stream reset: error_code".toList) := by
  have htext : lower (label ++ (streamReset errorCode).display) =
      lower (label ++ "stream reset: error_code".toList) ++ '=' ::
        lower (ofNat errorCode) :=
    lower_resetParts (by decide)
  rw [htext, infix_append_cons_iff hequals]
  simp only [not_infix_ofNat hc hdigit, or_false]

/-! ## What the texts are read as -/

/-- The debug data hold the words that mark a refused stream. -/
def MentionsRefusal (debugData : Bytes) : Prop :=
  "refused stream".toList <:+: Text.lower (Text.fromUtf8Lossy debugData)

instance (debugData : Bytes) : Decidable (MentionsRefusal debugData) :=
  inferInstanceAs (Decidable (_ <:+: _))

theorem classify_cons (message : Text) :
    classifyConnectionClosedMessage message =
      if "refused stream".toList <:+: Text.lower message then some .refusedStream
      else if "goaway".toList <:+: Text.lower message then some .goaway
      else if "stream reset".toList <:+: Text.lower message then some .reset
      else ((closedMessageTests.drop 3).find? fun test =>
        Text.contains (Text.lower message) test.1).map Prod.snd := by
  simp only [classifyConnectionClosedMessage, closedMessageTests, List.find?_cons, Text.contains,
    drop_succ_cons, drop_zero]
  by_cases hrefused : "refused stream".toList <:+: Text.lower message
  · simp only [hrefused, decide_true, if_true, map_some]
  · by_cases hgoaway : "goaway".toList <:+: Text.lower message
    · simp only [hrefused, hgoaway, decide_true, decide_false, if_true, if_false, map_some]
    · by_cases hreset : "stream reset".toList <:+: Text.lower message
      · simp only [hrefused, hgoaway, hreset, decide_true, decide_false, if_true, if_false,
          map_some]
      · simp only [hrefused, hgoaway, hreset, decide_false, if_false]

variable (context : H2Context)

theorem classify_goAway (errorCode : Nat) (debugData : Bytes) :
    classifyConnectionClosedMessage
        (context.label ++ (goAway (Driver.goAwayMessage errorCode debugData)).display) =
      some (if MentionsRefusal debugData then .refusedStream else .goaway) := by
  have hrefused : "refused stream".toList <:+: lower (context.label ++
      (goAway (Driver.goAwayMessage errorCode debugData)).display) ↔
      MentionsRefusal debugData := by
    rw [infix_goAway_iff (by decide) (by decide) (show 'r' ∈ _ by decide) (by decide)]
    have hfixed : ¬ "refused stream".toList <:+:
        lower (context.label ++ "GOAWAY: error_code".toList) := by
      cases context <;> decide +kernel
    have hdebug : ¬ "refused stream".toList <:+: " debug".toList := by decide
    simp only [hfixed, hdebug, false_or, MentionsRefusal]
  have hgoaway : "goaway".toList <:+: lower (context.label ++
      (goAway (Driver.goAwayMessage errorCode debugData)).display) := by
    rw [infix_goAway_iff (by decide) (by decide) (show 'g' ∈ _ by decide) (by decide)]
    exact .inl (by cases context <;> decide +kernel)
  rw [classify_cons]
  by_cases hmentions : MentionsRefusal debugData
  · rw [if_pos (hrefused.mpr hmentions), if_pos hmentions]
  · rw [if_neg (mt hrefused.mp hmentions), if_pos hgoaway, if_neg hmentions]

theorem classify_streamReset (errorCode : Nat) :
    classifyConnectionClosedMessage
        (context.label ++ (streamReset errorCode).display) = some .reset := by
  have hfixed : ∀ {needle : Text} {c : Char}, '=' ∉ needle → c ∈ needle → ¬ c.isDigit →
      (needle <:+: Text.lower (context.label ++ (streamReset errorCode).display) ↔
        needle <:+: Text.lower (context.label ++ "stream reset: error_code".toList)) :=
    fun hequals hc hdigit => infix_streamReset_iff hequals hc hdigit
  rw [classify_cons, if_neg, if_neg, if_pos]
  · rw [hfixed (by decide) (show 's' ∈ _ by decide) (by decide)]
    cases context <;> decide +kernel
  · rw [hfixed (by decide) (show 'g' ∈ _ by decide) (by decide)]
    cases context <;> decide +kernel
  · rw [hfixed (by decide) (show 'r' ∈ _ by decide) (by decide)]
    cases context <;> decide +kernel

/-! ## Decisions -/

/-- Two errors lead to the same decisions. -/
def Error.DecidedAlike (left right : Error) : Prop :=
  left.isSafeToReplay = right.isSafeToReplay ∧
    left.isConnectionClosed = right.isConnectionClosed ∧
    left.connectionClosedKind = right.connectionClosedKind

/-- Two messages of a driver lead to the same decisions, wherever the request meets them. -/
def MessagesAlike : Message → Message → Prop
  | .headers (.error left), .headers (.error right) =>
    ∀ context : H2Context, (context.requestError left).DecidedAlike (context.requestError right)
  | .body (.error left), .body (.error right) =>
    ∀ context : H2Context, (context.requestError left).DecidedAlike (context.requestError right)
  | left, right => left = right

/-- Every adapter lets the kind of a closed connection through. -/
theorem requestError_kind {error : DriverError} {kind : ConnectionClosedKind}
    (hclassify : classifyConnectionClosedMessage (context.label ++ error.display) = some kind) :
    (context.requestError error).connectionClosedKind = some kind := by
  cases context with
  | response | body | chunk =>
    simp only [H2Context.requestError, Error.h2OrConnectionClosed, Error.orConnectionClosed,
      hclassify, Error.connectionClosedKind]
  | firstResponse | firstBody =>
    simp only [H2Context.requestError, Error.connectionClosedKind, hclassify]

theorem requestError_goAway_kind (errorCode : Nat) (debugData : Bytes) :
    (context.requestError
      (.goAway (Driver.goAwayMessage errorCode debugData))).connectionClosedKind =
      some (if MentionsRefusal debugData then .refusedStream else .goaway) :=
  requestError_kind context (classify_goAway context errorCode debugData)

theorem requestError_goAway_alike (errorCode : Nat) (left right : Bytes) :
    (context.requestError (.goAway (Driver.goAwayMessage errorCode left))).DecidedAlike
        (context.requestError (.goAway (Driver.goAwayMessage errorCode right))) ↔
      (MentionsRefusal left ↔ MentionsRefusal right) := by
  constructor
  · intro halike
    have hkind := halike.2.2
    rw [requestError_goAway_kind, requestError_goAway_kind] at hkind
    by_cases hleft : MentionsRefusal left
    · by_cases hright : MentionsRefusal right
      · exact iff_of_true hleft hright
      · simp [hleft, hright] at hkind
    · by_cases hright : MentionsRefusal right
      · simp [hleft, hright] at hkind
      · exact iff_of_false hleft hright
  · intro hmentions
    have hkinds : (if MentionsRefusal left then ConnectionClosedKind.refusedStream else .goaway) =
        if MentionsRefusal right then .refusedStream else .goaway := by
      by_cases hright : MentionsRefusal right
      · rw [if_pos (hmentions.mpr hright), if_pos hright]
      · rw [if_neg (mt hmentions.mp hright), if_neg hright]
    have hkind : (context.requestError
        (.goAway (Driver.goAwayMessage errorCode left))).connectionClosedKind =
        (context.requestError
          (.goAway (Driver.goAwayMessage errorCode right))).connectionClosedKind := by
      rw [requestError_goAway_kind, requestError_goAway_kind, hkinds]
    refine ⟨?_, ?_, hkind⟩
    · cases context with
      | response | body | chunk =>
        simp only [H2Context.requestError, Error.h2OrConnectionClosed,
          Error.orConnectionClosed, classify_goAway, hkinds, Error.isSafeToReplay]
      | firstResponse | firstBody => rfl
    · rw [Error.isConnectionClosed_eq, Error.isConnectionClosed_eq, hkind]

theorem requestError_alike {left right : DriverError}
    (hsame : left.SameUpTo (fun left right => MentionsRefusal left ↔ MentionsRefusal right) right)
    (context : H2Context) :
    (context.requestError left).DecidedAlike (context.requestError right) := by
  cases hsame with
  | refl => exact ⟨rfl, rfl, rfl⟩
  | goAway errorCode hdata => exact (requestError_goAway_alike context errorCode _ _).mpr hdata

theorem messagesAlike_refl {message : Message} : MessagesAlike message message := by
  cases message with
  | headers result =>
    cases result with
    | error error => exact fun _ => ⟨rfl, rfl, rfl⟩
    | ok => rfl
  | body result =>
    cases result with
    | error error => exact fun _ => ⟨rfl, rfl, rfl⟩
    | ok data => rfl

theorem messagesAlike_of_sameUpTo {left right : Message}
    (hsame : left.SameUpTo (fun left right => MentionsRefusal left ↔ MentionsRefusal right)
      right) : MessagesAlike left right := by
  cases hsame with
  | refl => exact messagesAlike_refl
  | headers herror | body herror => exact requestError_alike herror

/-- Every request is sent messages that lead to the same decisions. -/
def RunsAlike (left right : Driver) : Prop :=
  List.Forall₂ (fun left right => left.1 = right.1 ∧ MessagesAlike left.2 right.2)
    left.sent right.sent

/-- Two runs of a driver lead to the same decisions if the debug data of their GOAWAY frames agree
on whether they mention a refused stream, and for one frame only then. A reset stream is never
taken for a refused one, which is right for every error code but `REFUSED_STREAM`. -/
theorem h2_decisions_iff (driver : Driver) (context : H2Context) (errorCode : Nat) :
    (∀ left right : List (Driver.Input × Driver.Circumstances),
      List.Forall₂ (SameTurn fun left right => MentionsRefusal left ↔ MentionsRefusal right)
        left right → RunsAlike (driver.run left) (driver.run right)) ∧
    (∀ left right : Bytes,
      (context.requestError (.goAway (Driver.goAwayMessage errorCode left))).DecidedAlike
          (context.requestError (.goAway (Driver.goAwayMessage errorCode right))) ↔
        (MentionsRefusal left ↔ MentionsRefusal right)) ∧
    (((context.requestError (.streamReset errorCode)).connectionClosedKind =
      some .refusedStream ↔ errorCode = 7) ↔ errorCode ≠ 7) := by
  refine ⟨?_, requestError_goAway_alike context errorCode, ?_⟩
  · intro left right hsteps
    have hsame := ((Driver.Same.refl driver).run hsteps).sent
    exact hsame.imp fun _ _ hsent => ⟨hsent.1, messagesAlike_of_sameUpTo hsent.2⟩
  · rw [requestError_kind context (classify_streamReset context errorCode)]
    simp

/-- Debug data that mention a refused stream make a failed request look safe to replay, and a
stream refused by its error code does not. -/
theorem h2_decisions_refused :
    let goAway := fun debugData => [(Driver.Input.received [.goAway 1 2 debugData] none,
      (⟨true, [], []⟩ : Driver.Circumstances))]
    let driver := Driver.start.insert 1 ⟨0, true⟩
    List.Forall₂ (SameTurn fun _ _ => True) (goAway []) (goAway (utf8 "refused stream")) ∧
      ¬ RunsAlike (driver.run (goAway [])) (driver.run (goAway (utf8 "refused stream"))) ∧
      ¬ ((H2Context.response.requestError (.streamReset 7)).connectionClosedKind =
        some .refusedStream ↔ 7 = 7) := by
  refine ⟨?_, ?_, by decide +kernel⟩
  · exact .cons ⟨.received none (.cons (.goAway 1 2 fun _ => trivial) .nil), rfl⟩ .nil
  · intro halike
    cases halike with
    | cons hfirst =>
      have hsafe := (hfirst.2 .response).1
      revert hsafe
      decide +kernel

end LkRequest.Client
