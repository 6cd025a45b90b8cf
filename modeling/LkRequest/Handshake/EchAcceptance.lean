import LkRequest.Handshake.EngineRuns
import LkRequest.Handshake.TranscriptSpec

/-!
# Acceptance of real ECH

The server proves that it accepted ECH by a confirmation in its ServerHello, and one in a
HelloRetryRequest before. `Rfc9849.Proved` says so over the log of a handshake. The engine keeps the
outcome in a flag; no driver looks at the flag, so a handshake ends in the same way whether ECH was
accepted or not.
-/

namespace LkRequest.Handshake

open Library Crypto Profile Hello Session Verify Record List QuicHandshakeDriver Option
  Tls13Handshake

/-! ## The specification -/

namespace Rfc9849

/-- The confirmation of an inner hello over a transcript. -/
def confirmation (crypto : Primitives) (hkdf : HkdfAlgorithm) (label : String)
    (inner transcript : Bytes) : Option Bytes :=
  (crypto.hkdfExpand hkdf.hash
    (crypto.hkdfExtract hkdf.hash (replicate hkdf.hashLen 0) (slice inner 6 38))
    (buildHkdfLabel label (crypto.digest hkdf.hash transcript) 8) 8).map (take 8)

/-- The ServerHello confirms the inner hello: the end of its random is the confirmation over the
messages before it and itself with these eight bytes zeroed. -/
def Confirms (crypto : Primitives) (inner : Bytes) (before : HkdfAlgorithm → Bytes)
    (answer : Bytes) : Prop :=
  ∃ hello hkdf aead, parseServerHello (answer.drop 4) = .ok hello ∧
    hello.isHelloRetryRequest = false ∧ cipherSuiteInfo hello.cipherSuite = .ok (hkdf, aead) ∧
    38 ≤ inner.length ∧
    confirmation crypto hkdf "ech accept confirmation" inner
      (before hkdf ++ (answer.take 30 ++ replicate 8 0 ++ answer.drop 38)) =
        some (slice hello.random 24 32)

/-- The HelloRetryRequest confirms the inner hello, which its hash stands for in the transcript. -/
def ConfirmsRetry (crypto : Primitives) (inner retry : Bytes) : Prop :=
  ∃ hello hkdf aead zeroed value, parseServerHello (retry.drop 4) = .ok hello ∧
    cipherSuiteInfo hello.cipherSuite = .ok (hkdf, aead) ∧
    zeroHrrEchConfirmation retry = .ok zeroed ∧ hello.extensions.echConfirmation = some value ∧
    confirmation crypto hkdf "hrr ech accept confirmation" inner
      (messageHash (crypto.digest hkdf.hash inner) ++ zeroed) = some value

/-- The ServerHello of a log, after one hello or after a retry and two, confirms the inner
hellos. -/
def HelloConfirmed (crypto : Primitives) : List Logged → Prop
  | .hello _ (some inner) :: .received answer :: rest =>
    if isRetryRequest answer then
      match rest with
      | .hello _ (some second) :: .received final :: _ =>
        Confirms crypto inner
          (fun hkdf => messageHash (crypto.digest hkdf.hash inner) ++ answer ++ second) final
      | _ => False
    else Confirms crypto inner (fun _ => inner) answer
  | _ => False

/-- A retry in the log confirms the first inner hello. -/
def RetryConfirmed (crypto : Primitives) : List Logged → Prop
  | .hello _ (some inner) :: .received answer :: _ =>
    isRetryRequest answer = true → ConfirmsRetry crypto inner answer
  | _ => True

/-- The server has proved that it accepted ECH. -/
def Proved (crypto : Primitives) (log : List Logged) : Prop :=
  HelloConfirmed crypto log ∧ RetryConfirmed crypto log

end Rfc9849

open Rfc9849

namespace Tls13Handshake

/-- The handshakes that messages can lead to one by one, with the messages and the log of all hellos
that were built and all messages that were read. -/
inductive MessageRun (crypto : Primitives) (settings : Settings) :
    List Bytes → List Logged → Tls13Handshake → Prop
  | start {handshake : Tls13Handshake} {message : Bytes}
      (hbuild : settings.handshake.buildClientHello crypto = .ok (handshake, message)) :
      MessageRun crypto settings [] [.hello message handshake.echInnerHello] handshake
  | message {messages : List Bytes} {log : List Logged} {handshake next : Tls13Handshake}
      {message : Bytes} {action : HandshakeAction}
      (hrun : MessageRun crypto settings messages log handshake)
      (hprocess : handshake.processMessage crypto message = .ok (next, action)) :
      MessageRun crypto settings (messages ++ [message])
        (log ++ [.received message] ++ next.helloSent action) next

variable {crypto : Primitives} {handshake held next : Tls13Handshake} {message : Bytes}
  {action before : HandshakeAction} {messages records : List Bytes} {settings : Settings}
  {log : List Logged}

theorem MessageRun.feed {later : List Bytes}
    (hrun : MessageRun crypto settings messages log handshake)
    (hfeed : handshake.feedMessages crypto before later = .ok (next, action)) :
    ∃ log, MessageRun crypto settings (messages ++ later) log next := by
  induction later generalizing messages log handshake before with
  | nil =>
    cases hfeed
    rw [append_nil]
    exact ⟨log, hrun⟩
  | cons message later ih =>
    obtain ⟨⟨middle, between⟩, hprocess, hrest⟩ := bind_eq_ok.mp hfeed
    rw [append_cons]
    exact ih (hrun.message hprocess) hrest

/-- The messages of all records of a run lead to its handshake. -/
theorem EngineRun.exists_messageRun (hrun : EngineRun crypto settings records log handshake) :
    ∃ log, MessageRun crypto settings (records.flatMap wholeMessages) log handshake := by
  induction hrun with
  | start hbuild => exact ⟨_, .start hbuild⟩
  | record _ hprocess ih =>
    obtain ⟨_, hmessages⟩ := ih
    rw [flatMap_append, flatMap_singleton]
    exact hmessages.feed (feedMessages_of_processHandshakeRecord hprocess)

/-! ## The flag -/

/-- What the engine has found of a ServerHello: that it confirms a real ECH offer. -/
structure ConfirmsEch (crypto : Primitives) (held : Tls13Handshake) (message : Bytes) : Prop where
  waiting : held.state = .waitServerHello
  offered : held.echOffered = true
  confirmed : ∃ hello hkdf aead inner, parseServerHello (message.drop 4) = .ok hello ∧
    hello.isHelloRetryRequest = false ∧ cipherSuiteInfo hello.cipherSuite = .ok (hkdf, aead) ∧
    held.echInnerHello = some inner ∧
    held.checkEchAcceptance crypto hkdf inner message hello.random = .ok true

variable {exchanged : Tls13Handshake} {hello : ServerHello} {hkdf : HkdfAlgorithm}

/-- The flag after the check of the confirmation. -/
theorem echAccepted_confirmEch {confirmed : Tls13Handshake}
    (hconfirm : exchanged.confirmEch crypto message hello hkdf = .ok confirmed) :
    confirmed.echAccepted = true ↔ exchanged.echAccepted = true ∨
      (exchanged.echOffered = true ∧ ∃ inner, exchanged.echInnerHello = some inner ∧
        exchanged.checkEchAcceptance crypto hkdf inner message hello.random = .ok true) := by
  rcases confirmEch_cases hconfirm with
    ⟨hnone, rfl⟩ | ⟨inner, accepted, hoffered, hinner, hcheck, -, rfl⟩
  · refine ⟨.inl, fun hright => hright.resolve_right ?_⟩
    rintro ⟨hoffered, inner, hinner, _⟩
    exact hnone ⟨hoffered, by rw [hinner]; rfl⟩
  · cases accepted with
    | false =>
      refine ⟨.inl, fun hright => hright.resolve_right ?_⟩
      rintro ⟨_, other, hother, hproved⟩
      obtain rfl : other = inner := some.inj (hother.symm.trans hinner)
      cases hcheck.symm.trans hproved
    | true => exact ⟨fun _ => .inr ⟨hoffered, inner, hinner, hcheck⟩, fun _ => rfl⟩

theorem startTranscript_eq (held : Tls13Handshake) {message : Bytes} (hkdf : HkdfAlgorithm) :
    ∃ transcript buffered, held.startTranscript message hkdf =
      { held with transcript := transcript, bufferedClientHello := buffered } := by
  rw [startTranscript]
  split
  · exact ⟨_, _, rfl⟩
  · exact ⟨_, _, rfl⟩

/-- A ServerHello sets the flag exactly if it confirms the offer, and leaves the offer as it was. -/
theorem echAccepted_serverHello {keys : HandshakeKeys}
    (hstep : Step crypto held message next (.installHandshakeKeys keys)) :
    (next.echAccepted = true ↔ held.echAccepted = true ∨ ConfirmsEch crypto held message) ∧
      next.echInnerHello = held.echInnerHello ∧ next.echOffered = held.echOffered ∧
      next.hrrReceived = held.hrrReceived := by
  cases hstep with
  | @serverHello hello hkdf aead _ _ confirmed _ _ _ hstate _ hparse hcheck hretry hselect
      hexchange hconfirm hderive =>
    obtain ⟨_, _, _, _, _, _, _, _, _, _, _, rfl⟩ := deriveHandshakeKeys_eq hderive
    obtain ⟨hinfo, _⟩ := checkServerHello_ok hcheck
    -- What precedes the confirmation leaves everything about ECH as it was.
    obtain ⟨_, rfl⟩ := selectPsk_eq hselect
    obtain ⟨_, rfl⟩ := computeSharedSecret_eq hexchange
    obtain ⟨_, _, hstarted⟩ := startTranscript_eq _ hkdf
    rw [hstarted] at hconfirm
    constructor
    · refine (echAccepted_confirmEch hconfirm).trans ⟨?_, ?_⟩
      · rintro (haccepted | ⟨hoffered, inner, hinner, hproved⟩)
        · exact .inl haccepted
        · exact .inr ⟨hstate, hoffered, hello, hkdf, aead, inner, hparse, hretry, hinfo, hinner,
            hproved⟩
      · rintro (haccepted | hproves)
        · exact .inl haccepted
        · obtain ⟨other, otherHkdf, _, inner, hother, _, hotherInfo, hinner, hproved⟩ :=
            hproves.confirmed
          obtain rfl : other = hello := Except.ok.inj (hother.symm.trans hparse)
          obtain ⟨rfl, -⟩ := Prod.mk.inj (Except.ok.inj (hotherInfo.symm.trans hinfo))
          exact .inr ⟨hproves.offered, inner, hinner, hproved⟩
    · rcases confirmEch_cases hconfirm with ⟨_, rfl⟩ | ⟨_, accepted, _, _, _, _, rfl⟩
      · exact ⟨rfl, rfl, rfl⟩
      · cases accepted <;> exact ⟨rfl, rfl, rfl⟩

/-- Past the ServerHello the fields of ECH stay as they are. -/
theorem ech_of_open (hstep : Step crypto held message next action)
    (hopen : held.state ≠ .waitServerHello) :
    next.echAccepted = held.echAccepted ∧ next.echInnerHello = held.echInnerHello ∧
      next.echOffered = held.echOffered ∧ next.hrrReceived = held.hrrReceived ∧
      next.state ≠ .waitServerHello := by
  cases hstep with
  | retry hstate | serverHello hstate => exact absurd hstate hopen
  | encryptedExtensions _ _ happly =>
    obtain ⟨_, _, _, _, _, _, rfl⟩ := applyEncryptedExtensions_eq happly
    refine ⟨rfl, rfl, rfl, rfl, ?_⟩
    dsimp only
    split <;> decide
  | certificateRequest => exact ⟨rfl, rfl, rfl, rfl, hopen⟩
  | certificate | certificateVerify | finished =>
    exact ⟨rfl, rfl, rfl, rfl, Tls13State.noConfusion⟩

/-! ## The flag and the log -/

theorem confirmation_eq_some {label : String} {inner transcript value : Bytes} :
    confirmation crypto hkdf label inner transcript = some value ↔
      ∃ output, echConfirmation crypto hkdf label inner (crypto.digest hkdf.hash transcript) =
        .ok output ∧ output.take 8 = value := by
  rw [confirmation, map_eq_some_iff]
  apply exists_congr
  intro output
  exact and_congr_left' hkdfExpandLabel_eq_ok.symm

/-- The check of the engine is the confirmation over the inner transcript. -/
theorem checkEchAcceptance_iff {inner random data : Bytes}
    (htranscript : held.innerTranscript crypto hkdf inner = .ok ⟨hkdf.hash, data⟩)
    (hlong : 38 ≤ message.length) :
    held.checkEchAcceptance crypto hkdf inner message random = .ok true ↔
      38 ≤ inner.length ∧ confirmation crypto hkdf "ech accept confirmation" inner
        (data ++ (message.take 30 ++ replicate 8 0 ++ message.drop 38)) =
          some (slice random 24 32) := by
  have hzeroed : zeroShConfirmation message =
      message.take 30 ++ replicate 8 0 ++ message.drop 38 := by
    rw [zeroShConfirmation, if_pos hlong]
    rfl
  rw [confirmation_eq_some, ← hzeroed, checkEchAcceptance, htranscript]
  change (if inner.length < 38 then (.ok false : Result Bool) else
    (echConfirmation crypto hkdf "ech accept confirmation" inner
      (crypto.digest hkdf.hash (data ++ zeroShConfirmation message))).bind
        fun output => .ok (slice random 24 32 == output.take 8)) = .ok true ↔ _
  by_cases hshort : inner.length < 38
  · rw [if_pos hshort]
    refine ⟨nofun, fun hproved => absurd hproved.1 (by omega)⟩
  · rw [if_neg hshort]
    refine bind_eq_ok.trans ⟨?_, ?_⟩
    · rintro ⟨output, houtput, hequal⟩
      exact ⟨by omega, output, houtput, (beq_iff_eq.mp (Except.ok.inj hequal)).symm⟩
    · rintro ⟨-, output, houtput, hequal⟩
      exact ⟨output, houtput, congrArg _ (beq_iff_eq.mpr hequal.symm)⟩

theorem length_of_parseServerHello (hparse : parseServerHello (message.drop 4) = .ok hello) :
    38 ≤ message.length := by
  rw [parseServerHello] at hparse
  obtain ⟨-, hparse⟩ := guard_eq_ok.mp hparse
  obtain ⟨hlong, -⟩ := guard_eq_ok.mp hparse
  rw [length_drop] at hlong
  omega

/-- What the engine finds of a ServerHello is what the message confirms, over the inner transcript
of the hellos before it. -/
theorem confirmsEch_iff {inner : Bytes} {data : HkdfAlgorithm → Bytes}
    (hstate : held.state = .waitServerHello) (hoffered : held.echOffered = true)
    (hinner : held.echInnerHello = some inner)
    (htranscript : ∀ hkdf, held.innerTranscript crypto hkdf inner = .ok ⟨hkdf.hash, data hkdf⟩) :
    ConfirmsEch crypto held message ↔ Confirms crypto inner data message := by
  constructor
  · intro hconfirms
    obtain ⟨hello, hkdf, aead, other, hparse, hanswer, hinfo, hother, hcheck⟩ :=
      hconfirms.confirmed
    obtain rfl := some.inj (hinner.symm.trans hother)
    rw [checkEchAcceptance_iff (htranscript hkdf) (length_of_parseServerHello hparse)] at hcheck
    exact ⟨hello, hkdf, aead, hparse, hanswer, hinfo, hcheck⟩
  · rintro ⟨hello, hkdf, aead, hparse, hanswer, hinfo, hcheck⟩
    rw [← checkEchAcceptance_iff (htranscript hkdf) (length_of_parseServerHello hparse)] at hcheck
    exact ⟨hstate, hoffered, hello, hkdf, aead, inner, hparse, hanswer, hinfo, hinner, hcheck⟩

theorem not_confirmsEch_of_none (hinner : held.echInnerHello = none) :
    ¬ ConfirmsEch crypto held message := by
  intro hconfirms
  obtain ⟨_, _, _, inner, _, _, _, hother, _⟩ := hconfirms.confirmed
  cases hinner.symm.trans hother

/-- The log has the ServerHello. -/
def Answered (log : List Logged) : Prop :=
  (∃ message inner answer rest, log = .hello message inner :: .received answer :: rest ∧
    isRetryRequest answer = false) ∨
  ∃ message inner retry second innerSecond answer rest,
    log = .hello message inner :: .received retry :: .hello second innerSecond ::
      .received answer :: rest ∧ isRetryRequest retry = true

/-- Messages after the ServerHello do not matter. -/
theorem Answered.append (hanswered : Answered log) (later : List Logged) :
    Answered (log ++ later) ∧ (HelloConfirmed crypto (log ++ later) ↔ HelloConfirmed crypto log) ∧
      (RetryConfirmed crypto (log ++ later) ↔ RetryConfirmed crypto log) := by
  obtain ⟨message, inner, answer, rest, rfl, hanswer⟩ |
    ⟨message, inner, retry, second, innerSecond, answer, rest, rfl, hretry⟩ := hanswered
  · refine ⟨.inl ⟨message, inner, answer, rest ++ later, rfl, hanswer⟩, ?_⟩
    cases inner <;> simp [HelloConfirmed, RetryConfirmed, hanswer]
  · refine ⟨.inr ⟨message, inner, retry, second, innerSecond, answer, rest ++ later, rfl, hretry⟩,
      ?_⟩
    cases inner <;> cases innerSecond <;> simp [HelloConfirmed, RetryConfirmed, hretry]

/-- What the fields of ECH have to do with the log. -/
structure EchLogged (crypto : Primitives) (log : List Logged) (handshake : Tls13Handshake) :
    Prop where
  hashed : Hashed crypto log handshake
  offered : handshake.echInnerHello.isSome = true → handshake.echOffered = true
  answered : handshake.state ≠ .waitServerHello → Answered log
  accepted : handshake.echAccepted = true ↔ HelloConfirmed crypto log
  unretried : handshake.hrrReceived = false → RetryConfirmed crypto log

/-- A retry leaves the flag alone: it is no ServerHello that confirms. -/
theorem EchLogged.retry {ch2 : Bytes} (hlogged : EchLogged crypto log held)
    (hstep : Step crypto held message next (.retryClientHello ch2)) :
    EchLogged crypto (log ++ [.received message] ++ [.hello ch2 next.hrrInnerCh2]) next := by
  have hhashed := hlogged.hashed.retry hstep
  cases hstep with
  | retry hstate htype hparse _ hretry hfirst _ _ hbuild =>
    obtain ⟨_, innerCh2, _, rfl⟩ := buildClientHelloRetry_eq hbuild
    have hrequest : isRetryRequest message = true := (isRetryRequest_eq hparse htype).trans hretry
    refine ⟨hhashed, hlogged.offered, fun hnext => absurd rfl hnext, ?_, nofun⟩
    refine hlogged.accepted.trans ?_
    cases hlogged.hashed with
    | @first _ _ inner => cases inner <;> cases innerCh2 <;> simp [HelloConfirmed, hrequest]
    | retried _ hagain => cases hfirst.symm.trans hagain
    | answered hlater => exact absurd hstate hlater
    | connected hconnected => cases hconnected.symm.trans hstate

/-- What a ServerHello after one hello confirms. -/
theorem confirmsEch_first {inner : Option Bytes} (hstate : held.state = .waitServerHello)
    (hanswer : isRetryRequest message = false)
    (hoffered : held.echInnerHello.isSome = true → held.echOffered = true)
    (hretry : held.hrrReceived = false) (hinner : held.echInnerHello = inner) (sent : Bytes) :
    ConfirmsEch crypto held message ↔
      HelloConfirmed crypto [.hello sent inner, .received message] := by
  cases inner with
  | none => simp [HelloConfirmed, not_confirmsEch_of_none hinner]
  | some inner =>
    have hconfirms : ConfirmsEch crypto held message ↔
        Confirms crypto inner (fun _ => inner) message := by
      refine confirmsEch_iff hstate (hoffered (by rw [hinner]; rfl)) hinner ?_
      intro hkdf
      rw [innerTranscript, if_neg (by rw [hretry]; decide)]
      rfl
    simp [HelloConfirmed, hanswer, hconfirms]

/-- What a ServerHello after a retry confirms. -/
theorem confirmsEch_retried {retry : Bytes} {inner innerSecond : Option Bytes}
    (hstate : held.state = .waitServerHello)
    (hoffered : held.echInnerHello.isSome = true → held.echOffered = true)
    (hretry : held.hrrReceived = true) (hrequest : isRetryRequest retry = true)
    (hraw : held.hrrRawBytes = some retry) (hinner : held.echInnerHello = inner)
    (hinnerSecond : held.hrrInnerCh2 = innerSecond) (sent second : Bytes) :
    ConfirmsEch crypto held message ↔ HelloConfirmed crypto
      [.hello sent inner, .received retry, .hello second innerSecond, .received message] := by
  cases inner with
  | none => simp [HelloConfirmed, not_confirmsEch_of_none hinner]
  | some inner =>
    cases innerSecond with
    | none =>
      have hunconfirmed : ¬ ConfirmsEch crypto held message := by
        intro hconfirms
        obtain ⟨_, _, _, _, _, _, _, _, hcheck⟩ := hconfirms.confirmed
        obtain ⟨innerSecond, hsecond⟩ := exists_of_checkEchAcceptance hcheck hretry
        cases hinnerSecond.symm.trans hsecond
      simp [HelloConfirmed, hrequest, hunconfirmed]
    | some innerSecond =>
      have hconfirms : ConfirmsEch crypto held message ↔ Confirms crypto inner
          (fun hkdf => messageHash (crypto.digest hkdf.hash inner) ++ retry ++ innerSecond)
          message := by
        refine confirmsEch_iff hstate (hoffered (by rw [hinner]; rfl)) hinner ?_
        intro hkdf
        rw [innerTranscript, if_pos hretry, hraw, hinnerSecond]
        rfl
      simp [HelloConfirmed, hrequest, hconfirms]

/-- The ServerHello decides. -/
theorem EchLogged.serverHello {keys : HandshakeKeys} (hlogged : EchLogged crypto log held)
    (hstep : Step crypto held message next (.installHandshakeKeys keys)) :
    EchLogged crypto (log ++ [.received message]) next := by
  have hhashed := hlogged.hashed.serverHello hstep
  obtain ⟨hflag, hinnerHello, hoffered, hreceived⟩ := echAccepted_serverHello hstep
  obtain ⟨hstate, hanswer⟩ : held.state = .waitServerHello ∧ isRetryRequest message = false := by
    cases hstep with
    | serverHello hstate htype hparse _ hretry =>
      exact ⟨hstate, (isRetryRequest_eq hparse htype).trans hretry⟩
  have hoffers : next.echInnerHello.isSome = true → next.echOffered = true := by
    rw [hinnerHello, hoffered]
    exact hlogged.offered
  cases hlogged.hashed with
  | @first _ sent inner _ hretry _ hrejected hinner =>
    refine ⟨hhashed, hoffers, fun _ => .inl ⟨_, _, _, _, rfl, hanswer⟩, ?_, fun _ => ?_⟩
    · rw [hflag, hrejected, confirmsEch_first hstate hanswer hlogged.offered hretry hinner sent]
      simp
    · cases inner <;> simp [RetryConfirmed, hanswer]
  | @retried _ sent retry second _ _ _ _ hretry hrequest hraw _ _ hrejected hinner hinnerSecond =>
    refine ⟨hhashed, hoffers, fun _ => .inr ⟨_, _, _, _, _, _, _, rfl, hrequest⟩, ?_, ?_⟩
    · rw [hflag, hrejected, confirmsEch_retried hstate hlogged.offered hretry hrequest hraw hinner
        hinnerSecond sent second]
      simp
    · intro hnone
      rw [hreceived, hretry] at hnone
      cases hnone
  | answered hlater => exact absurd hstate hlater
  | connected hconnected => cases hconnected.symm.trans hstate

/-- Every message keeps the fields of ECH in line with the log. -/
theorem EchLogged.step (hlogged : EchLogged crypto log held)
    (hstep : Step crypto held message next action) :
    EchLogged crypto (log ++ [.received message] ++ next.helloSent action) next := by
  -- Past the ServerHello nothing about ECH changes any more.
  have hpast (hopen : held.state ≠ .waitServerHello) :
      EchLogged crypto (log ++ [.received message] ++ next.helloSent action) next := by
    obtain ⟨haccepted, hinner, hoffered, hreceived, -⟩ := ech_of_open hstep hopen
    have hhashed := hlogged.hashed.step hstep
    rw [append_assoc] at hhashed ⊢
    obtain ⟨hanswered, hconfirmed, hretried⟩ :=
      @Answered.append crypto log (hlogged.answered hopen)
        (.received message :: next.helloSent action)
    refine ⟨hhashed, ?_, fun _ => hanswered, ?_, ?_⟩
    · rw [hinner, hoffered]
      exact hlogged.offered
    · rw [haccepted]
      exact hlogged.accepted.trans hconfirmed.symm
    · rw [hreceived]
      exact fun hnone => hretried.mpr (hlogged.unretried hnone)
  cases action with
  | retryClientHello ch2 => exact hlogged.retry hstep
  | installHandshakeKeys keys =>
    simp only [helloSent, append_nil]
    exact hlogged.serverHello hstep
  | continueReading =>
    apply hpast
    cases hstep with
    | encryptedExtensions hstate | certificateRequest hstate | certificate hstate
    | certificateVerify hstate =>
      rw [hstate]
      decide
  | complete =>
    apply hpast
    cases hstep with
    | finished hstate =>
      rw [hstate]
      decide

theorem rememberHello_ech (handshake : Tls13Handshake) (output : ClientHelloOutput) :
    (handshake.rememberHello output).echAccepted = handshake.echAccepted ∧
      (handshake.rememberHello output).hrrReceived = handshake.hrrReceived ∧
      ((handshake.rememberHello output).echInnerHello = handshake.echInnerHello ∨
        (handshake.rememberHello output).echOffered = true) := by
  rw [rememberHello]
  split
  · exact ⟨rfl, rfl, .inr rfl⟩
  · exact ⟨rfl, rfl, .inl rfl⟩

theorem MessageRun.echLogged (hrun : MessageRun crypto settings messages log handshake) :
    EchLogged crypto log handshake := by
  induction hrun with
  | start hbuild =>
    obtain ⟨output, earlySecret, _, rfl⟩ := buildClientHello_eq hbuild
    obtain ⟨haccepted, hreceived, hinner⟩ := rememberHello_ech settings.handshake output
    refine ⟨.first rfl hreceived rfl haccepted rfl, ?_, fun hlater => absurd rfl hlater, ?_,
      fun _ => ?_⟩
    · intro hsome
      refine hinner.resolve_left fun hnone => ?_
      rw [hnone] at hsome
      cases hsome
    · rw [haccepted]
      cases (settings.handshake.rememberHello output).echInnerHello <;>
        simp [HelloConfirmed, Settings.handshake]
    · cases (settings.handshake.rememberHello output).echInnerHello <;> trivial
  | message _ hprocess ih => exact ih.step (processMessage_step hprocess)

/-- Past the ServerHello the messages of a record leave the fields of ECH as they are. -/
theorem ech_of_steps (hsteps : Steps crypto held before messages next action)
    (hopen : held.state ≠ .waitServerHello) :
    next.echAccepted = held.echAccepted ∧ next.hrrReceived = held.hrrReceived ∧
      next.state ≠ .waitServerHello := by
  induction hsteps with
  | nil => exact ⟨rfl, rfl, hopen⟩
  | cons hstep _ ih =>
    obtain ⟨haccepted, -, -, hreceived, hlater⟩ := ech_of_open hstep hopen
    obtain ⟨hlast, hlastReceived, hend⟩ := ih hlater
    exact ⟨hlast.trans haccepted, hlastReceived.trans hreceived, hend⟩

end Tls13Handshake

/-! ## The drivers -/

/-- The flag of the TLS 1.3 handshake that a driver holds; there is none in TLS 1.2. -/
def DriverState.echAccepted (state : DriverState) : Bool := state.engine?.any (·.echAccepted)

def QuicDriverState.echAccepted (state : QuicDriverState) : Bool :=
  state.engine?.any (·.echAccepted)

/-- The log of the handshake that a driver holds: its messages are in the bytes that were read. -/
def LogOf (crypto : Primitives) (settings : Settings) (engine : Option Tls13Handshake)
    (read : Bytes) (log : List Logged) : Prop :=
  ∀ handshake, engine = some handshake → ∃ records : List Bytes, records.flatten <+: read ∧
    MessageRun crypto settings (records.flatMap wholeMessages) log handshake

variable {crypto : Primitives} {read : List Event}

theorem HandshakeDriver.HoldsEngine.again {config : HandshakeConfig} {events : List Event}
    {driver last : HandshakeDriver} (hholds : HoldsEngine crypto config events driver)
    (hagain : Again crypto driver read last) :
    HoldsEngine crypto config (events ++ read) last := by
  induction hagain with
  | refl =>
    rw [append_nil]
    exact hholds
  | pass _ hpass ih =>
    rw [← append_assoc]
    exact ih.transition hpass

theorem QuicHandshakeDriver.HoldsEngine.again {config : QuicHandshakeConfig} {events : List Event}
    {driver last : QuicHandshakeDriver} (hholds : HoldsEngine crypto config events driver)
    (hagain : Again crypto driver read last) :
    HoldsEngine crypto config (events ++ read) last := by
  induction hagain with
  | refl =>
    rw [append_nil]
    exact hholds
  | pass _ hpass ih =>
    rw [← append_assoc]
    exact ih.transition hpass

/-- What a driver holds has its log, which proves the acceptance exactly if the flag is set and a
retry was confirmed. -/
theorem exists_logOf {settings : Settings} {engine : Option Tls13Handshake} {bytes : Bytes}
    (hholds : ∀ handshake, engine = some handshake →
      ∃ records log, EngineRun crypto settings records log handshake ∧
        records.flatten <+: bytes) :
    ∃ log, LogOf crypto settings engine bytes log ∧
      ((engine.isSome = true ∧ Proved crypto log) ↔
        engine.any (·.echAccepted) = true ∧ RetryConfirmed crypto log) := by
  cases engine with
  | none =>
    refine ⟨[], ?_, by simp⟩
    intro _ hnone
    cases hnone
  | some handshake =>
    obtain ⟨records, _, hrun, hread⟩ := hholds handshake rfl
    obtain ⟨log, hmessages⟩ := hrun.exists_messageRun
    refine ⟨log, ?_, ?_⟩
    · rintro _ ⟨⟩
      exact ⟨records, hread, hmessages⟩
    · rw [Option.any_some, hmessages.echLogged.accepted]
      simp [Proved]

/-- A driver that has the handshake keys keeps the fields of ECH until its last pass. -/
theorem QuicHandshakeDriver.ech_again {driver last : QuicHandshakeDriver}
    {handshake : Tls13Handshake} (hagain : Again crypto driver read last)
    (hstate : driver.state = .tls13Encrypted handshake)
    (hopen : handshake.state ≠ .waitServerHello) :
    ∃ held, last.state = .tls13Encrypted held ∧ held.state ≠ .waitServerHello ∧
      held.echAccepted = handshake.echAccepted ∧ held.hrrReceived = handshake.hrrReceived := by
  induction hagain with
  | refl => exact ⟨handshake, hstate, hopen, rfl, rfl⟩
  | pass _ hpass ih =>
    obtain ⟨held, hheld, hheldOpen, haccepted, hreceived⟩ := ih
    cases hpass with
    | @encrypted before next _ _ hbefore _ hprocess =>
      obtain rfl : held = before := by
        rw [hheld] at hbefore
        injection hbefore
      obtain ⟨hkept, hkeptReceived, hend⟩ :=
        ech_of_steps (processHandshakeRecord_steps hprocess) hheldOpen
      exact ⟨next, rfl, hend, hkept.trans haccepted, hkeptReceived.trans hreceived⟩

/-! ## An exchange with real ECH

The configuration is for X25519 with HKDF-SHA256 and AES-128-GCM. The recorded values of HPKE are
real ones as well; the context of the sender is its key with its base nonce. -/

namespace Exchange

def echPublicKey : Bytes :=
  ofHex 32 0x219e4d800da968d2a5fcb009c784f4746c7138edb9ee4844b739e830b05cf424

/-- A configuration with the identifier 7 and the public name `public.example`. -/
def echConfigBytes : Bytes :=
  ofHex 9 0xfe0d003d0700200020 ++ echPublicKey ++ ofHex 6 0x000400010001 ++ [0x10] ++
    lengthPrefixed8 (utf8 "public.example") ++ [0x00, 0x00]

/-- The profile of `config` with a server name and ECH. -/
def echConfig : QuicHandshakeConfig where
  tls := { config with
    profile := { config.profile with
      extensions := ⟨ExtType.sni, .auto⟩ :: config.profile.extensions ++
        [⟨ExtType.encryptedClientHello, .auto⟩]
      ech := some (.grease { kdfId := 0x0001, aeadId := 0x0001 }) }
    echConfigList := some (be16 echConfigBytes.length ++ echConfigBytes) }
  transportParameters := [0x01, 0x02, 0x03]

def echEncapsulated : Bytes :=
  ofHex 32 0xba193836cff1f4e866c139715d306408d26a76f76d638a39afc1001084d25411

def echContext : Bytes :=
  ofHex 28 0x243b82571271bc7a09ffba983e293dbe8dfb9c111ccfae9e761c6326

def echCiphertext : Bytes :=
  ofHex 36 0x4fcba09ef278de2639d5e6084fa00795c1b8b53be20df2a4d388073d639c60f9e0b1b6a9 ++
    ofHex 36 0x7332c54c256a982ccbaada9e51fe176992e12d9b267621f11e4a275aa2bcb9b43f3ba722 ++
    ofHex 36 0xe3e7f1d1410bd50a7543779ef7c7f8da8fb770df37ca3b7d3ec2511161aaffcc46847316 ++
    ofHex 36 0x7b52db40d6a392efd0992d5465afadae6ea0575ccd97b27624aced8ed742e99c82659e82

/-- The outer hello around an ECH payload. -/
def outerHello (payload : Bytes) : Bytes :=
  ofHex 6 0x010001480303 ++ List.replicate 32 0x22 ++
    ofHex 9 0x00000213010100011d ++ encodeSni "public.example" ++ helloExtensions ++
    ofHex 12 0xfe0d00ba0000010001070020 ++ echEncapsulated ++ be16 payload.length ++ payload ++
    ofHex 7 0x00390003010203

def innerHello : Bytes :=
  ofHex 6 0x0100008c0303 ++ List.replicate 32 0x33 ++ ofHex 9 0x000002130101000061 ++
    encodeSni "example.com" ++ helloExtensions ++ encodeEchInner ++
    ofHex 7 0x00390003010203

/-- The inner hello refers to the key share of the outer one. -/
def encodedInnerHello : Bytes :=
  ofHex 2 0x0303 ++ List.replicate 32 0x33 ++ ofHex 9 0x00000213010100003e ++
    encodeSni "example.com" ++ helloExtensions.take 23 ++ encodeEchOuterExtensions [0x0033] ++
    encodeEchInner ++ ofHex 7 0x00390003010203 ++ List.replicate 23 0x00

/-- What the server puts into its random to accept. -/
def echConfirmationValue : Bytes := ofHex 8 0xf906ca7ee1a37ff1

def acceptingServerHello : Bytes := overwrite serverHello 30 echConfirmationValue

def echConfirmationHash : Bytes :=
  ofHex 32 0x8913c784672057f068806e7fd942408d17496920234ef2ecb34aeffd02d0bf5e

def echConfirmationSecret : Bytes :=
  ofHex 32 0x61e958f2217569ab7b91322011fd7a47e4ea68ae551eed6907de9285e4770cdd

def acceptedHelloHash : Bytes :=
  ofHex 32 0x51b746a57f0586f2be6c6ec829db268900a3c99f5850bbb020659b7d04d43ada

def acceptedClientSecret : Bytes :=
  ofHex 32 0x83ad790e4dc0a737dfb3ae4c8470c74abee2aca114c941b7932ecaa2ec512b01

def acceptedServerSecret : Bytes :=
  ofHex 32 0xf8c94ae02d28e6205b619c743248a5ffc44b2b2e6ce6a1f1d1a9d7f21fa59595

def acceptedClientFinishedKey : Bytes :=
  ofHex 32 0x9f5af5f03f1166b25d374cdb4d85b3ec0e50a408c4de7c457a74ca788f5f100e

def acceptedServerFinishedKey : Bytes :=
  ofHex 32 0x3d94ae7963e29158d6c23d7b52e2e4879dc7022e71ee4b6a198146868c02eb01

def acceptedServerFinished : Bytes :=
  ofHex 36 0x140000206292d4ade549b6d9cfe7991544016a3718a6d7f40e9b0b158ef6aa011d9608b5

def acceptedClientFinished : Bytes :=
  ofHex 36 0x14000020dcaa38f20ddaefe7d5877f4af648b106562c652dfe35ca62021b50aacaa36d81

def acceptedHashes : Bytes × Bytes :=
  (ofHex 32 0x55a13bb273a27afa591eae6d43da1c442d38dcd9a1545801972da82d303c5a85,
    ofHex 32 0x8bda61fe26341b8405ad09a67d7766248239b2a60dde140178ae808103870a03)

def rejectedHelloHash : Bytes :=
  ofHex 32 0x825c9086d18fe74a3696f97fcfac152586dd8745e6888dc799e5d38ccccf7ce6

def rejectedClientSecret : Bytes :=
  ofHex 32 0x2ac0f98d626021511f8ac2492e731f9f55d0d740f1227ad54557449c0a835235

def rejectedServerSecret : Bytes :=
  ofHex 32 0x9f4935690460b0a9974e1040b02e28e70a16fd747d8caee7a28f20cabed72858

def rejectedClientFinishedKey : Bytes :=
  ofHex 32 0x96677ea27b7470ec8b3e68babca885bee89c691cf359058986450fbe44821a0c

def rejectedServerFinishedKey : Bytes :=
  ofHex 32 0xad1d7fa6f52e99ce0052db78283e69c64ea903b1425cb0a9b6ef11c557e49c53

def rejectedServerFinished : Bytes :=
  ofHex 36 0x1400002016898a572c05906f43eb8a6c6df19697e086961b7d771cfdbc37e48f6991b5c9

def rejectedClientFinished : Bytes :=
  ofHex 36 0x14000020ae082c09dc3523457708d05fa6de87fcc1e433b00bda9c56fdfe728a5b3a3d03

def rejectedHashes : Bytes × Bytes :=
  (ofHex 32 0x5d827ceecfce4c8b0dd375db5b2eb53f77d100ae821563d891033cc36d98d9f9,
    ofHex 32 0xe982b586363b505f511854bacb6a5196a2204a2de39b310d764db4a929006798)

/-- The calls of one handshake, from its hellos to the two Finished messages. -/
def handshakeCalls (hellos helloHash clientSecret serverSecret clientFinishedKey serverFinishedKey
    serverFinished clientFinished : Bytes) (hashes : Bytes × Bytes) : Recording where
  digests :=
    [⟨.sha256, hellos, helloHash⟩, ⟨.sha256, hellos ++ quicFlight, hashes.1⟩,
      ⟨.sha256, hellos ++ quicFlight ++ serverFinished, hashes.2⟩]
  expands :=
    [expanded handshakeSecret "c hs traffic" helloHash clientSecret,
      expanded handshakeSecret "s hs traffic" helloHash serverSecret,
      expanded clientSecret "finished" [] clientFinishedKey,
      expanded serverSecret "finished" [] serverFinishedKey]
  hmacs :=
    [⟨.sha256, serverFinishedKey, hashes.1, serverFinished.drop 4⟩,
      ⟨.sha256, clientFinishedKey, hashes.2, clientFinished.drop 4⟩]

def acceptedCalls : Recording :=
  handshakeCalls (innerHello ++ acceptingServerHello) acceptedHelloHash acceptedClientSecret
    acceptedServerSecret acceptedClientFinishedKey acceptedServerFinishedKey acceptedServerFinished
    acceptedClientFinished acceptedHashes

def rejectedCalls : Recording :=
  handshakeCalls (outerHello echCiphertext ++ serverHello) rejectedHelloHash rejectedClientSecret
    rejectedServerSecret rejectedClientFinishedKey rejectedServerFinishedKey rejectedServerFinished
    rejectedClientFinished rejectedHashes

def echRecording : Recording :=
  { schedule with
    draws := schedule.draws ++ [(.innerRandom 0, List.replicate 32 0x33)]
    digests := schedule.digests ++ acceptedCalls.digests ++ rejectedCalls.digests ++
      [⟨.sha256, innerHello ++ zeroShConfirmation serverHello, echConfirmationHash⟩]
    extracts := schedule.extracts ++
      [⟨.sha256, List.replicate 32 0x00, List.replicate 32 0x33, echConfirmationSecret⟩]
    expands := schedule.expands ++ acceptedCalls.expands ++ rejectedCalls.expands ++
      [expanded echConfirmationSecret "ech accept confirmation" echConfirmationHash
        echConfirmationValue]
    hmacs := acceptedCalls.hmacs ++ rejectedCalls.hmacs }

/-- The calls of HPKE beside the recording. -/
def echPrimitives : Primitives :=
  { echRecording.primitives with
    hpkeSetup := fun aeadId publicKey info _ =>
      if aeadId = 0x0001 ∧ publicKey = echPublicKey ∧
          info = utf8 "tls ech" ++ [0x00] ++ echConfigBytes then
        .ok (echEncapsulated, echContext)
      else .error "not recorded"
    hpkeSeal := fun aeadId context sequence aad plaintext =>
      if aeadId = 0x0001 ∧ context = echContext ∧ sequence = 0 ∧
          aad = (outerHello (List.replicate 144 0x00)).drop 4 ∧ plaintext = encodedInnerHello then
        .ok echCiphertext
      else .error "not recorded" }

def echStarted : QuicHandshakeDriver :=
  (QuicHandshakeDriver.start echPrimitives (.new echConfig)).1

/-- The driver after a ServerHello. -/
def echOpened (hello : Bytes) : QuicHandshakeDriver :=
  ((echStarted.feed hello).progress echPrimitives).1

theorem echStart_snd : (start echPrimitives (.new echConfig)).2 =
    .ok (outerHello echCiphertext) := by
  decide +kernel

theorem echOpened_run (hello : Bytes) :
    ∃ events, QuicHandshakeDriver.Run echPrimitives echConfig events (echOpened hello) := by
  unfold echOpened echStarted
  have hstart := QuicHandshakeDriver.Run.start (Prod.snd_eq_iff.mp echStart_snd)
  exact (hstart.feed hello).exists_of_progress

/-- What a driver holds after a ServerHello, as far as ECH goes. -/
def echFields (driver : QuicHandshakeDriver) : Option (Tls13State × Bool × Bool × Bool) :=
  driver.state.encrypted?.map fun handshake =>
    (handshake.state, handshake.echOffered, handshake.echAccepted, handshake.hrrReceived)

theorem exists_of_echFields {driver : QuicHandshakeDriver} {state : Tls13State}
    {offered accepted received : Bool}
    (hview : echFields driver = some (state, offered, accepted, received)) :
    ∃ handshake, driver.state = .tls13Encrypted handshake ∧ handshake.state = state ∧
      handshake.echOffered = offered ∧ handshake.echAccepted = accepted ∧
      handshake.hrrReceived = received := by
  obtain ⟨handshake, hheld, hfields⟩ := map_eq_some_iff.mp hview
  simp only [Prod.mk.injEq] at hfields
  exact ⟨handshake, QuicDriverState.encrypted?_eq_some.mp hheld, hfields⟩

end Exchange

end LkRequest.Handshake
