import LkRequest.Client.Redirects

/-!
# The requests of a chain of redirects

What a run of `send_with_redirects` requests, hop by hop, and what each answer leads to. From this
follows when redirects are followed exactly.
-/

namespace LkRequest.Client

open Library List Option

abbrev ChainEvent : Type := Prog.Event ChainOp ChainAns

/-- A request of a chain: the URL that was asked for, its upgrade, what was sent and the answer. -/
structure ChainHop where
  asked : Text
  upgraded : Option Text
  sent : RedirectState
  answer : Except Error Response

/-- The requests in a run that last asked for a URL. -/
def hopsFrom (asked : Text) (upgraded : Option Text) : List ChainEvent → List ChainHop
  | [] => []
  | ⟨.upgrade url, answer⟩ :: events => hopsFrom url answer events
  | ⟨.single state, answer⟩ :: events =>
    ⟨asked, upgraded, state, answer⟩ :: hopsFrom asked upgraded events
  | ⟨.learnSts _ _, _⟩ :: events => hopsFrom asked upgraded events
  | ⟨.log _, _⟩ :: events => hopsFrom asked upgraded events
  | ⟨.shouldRetry _ _ _, _⟩ :: events => hopsFrom asked upgraded events

def chainHops (events : List ChainEvent) : List ChainHop := hopsFrom [] none events

theorem hopsFrom_append (asked : Text) (upgraded : Option Text) (before after : List ChainEvent) :
    ∃ asked' upgraded', hopsFrom asked upgraded (before ++ after) =
      hopsFrom asked upgraded before ++ hopsFrom asked' upgraded' after := by
  induction before generalizing asked upgraded with
  | nil => exact ⟨asked, upgraded, rfl⟩
  | cons event before ih =>
    match event with
    | ⟨.upgrade url, answer⟩ => exact ih url answer
    | ⟨.single state, answer⟩ =>
      obtain ⟨asked', upgraded', happend⟩ := ih asked upgraded
      exact ⟨asked', upgraded', congrArg (cons _) happend⟩
    | ⟨.learnSts .., _⟩ | ⟨.log _, _⟩ | ⟨.shouldRetry .., _⟩ => exact ih asked upgraded

/-! ## One pass -/

section Pass

variable (session : Session) (remaining : Nat) (state : RedirectState)

/-- The record of a redirect that the loop pushes. -/
def RedirectState.record (response : Response) (target : Url) : RedirectRecord :=
  ⟨state.url, response.status, response.headers, session.urls.render target⟩

/-- What the loop decides on a response, with the circumstances of each decision. -/
inductive Decides (response : Response) : Except Error Redirected → Prop
  | returned (hfinal : isRedirection response.status = false ∨ session.redirectPolicy = .none) :
      Decides response (.ok (.done { response with url := state.url, history := state.history }))
  | exhausted (limit : Nat) (hredirection : isRedirection response.status = true)
      (hpolicy : session.redirectPolicy = .follow limit) (hremaining : remaining = 0) :
      Decides response (.error (.tooManyRedirects limit))
  | unresolved (error : Error) (hremaining : 0 < remaining)
      (hredirection : isRedirection response.status = true)
      (hpolicy : session.redirectPolicy ≠ .none)
      (htarget : redirectTarget session state response = .error error) :
      Decides response (.error error)
  | unfollowed (base target : Url) (hremaining : 0 < remaining)
      (hredirection : isRedirection response.status = true)
      (hpolicy : session.redirectPolicy ≠ .none)
      (htarget : redirectTarget session state response = .ok (base, target))
      (hstatus : isFollowedStatus response.status = false) :
      Decides response (.ok (.done
        { response with history := state.history ++ [state.record session response target] }))
  | followed (base target : Url) (hremaining : 0 < remaining)
      (hpolicy : session.redirectPolicy ≠ .none)
      (htarget : redirectTarget session state response = .ok (base, target))
      (hstatus : isFollowedStatus response.status = true) :
      Decides response (.ok (.follow (state.next response.status base target
        (session.urls.render target) (state.history ++ [state.record session response target]))))

/-- The request of a hop is the one of a state, with the URL upgraded. -/
structure ChainHop.Issues (hop : ChainHop) : Prop where
  asked : hop.asked = state.url
  sent : hop.sent = { state with url := hop.upgraded.getD state.url }

/-- What one pass requests and what it leads to. -/
inductive Passes : List ChainHop → Option (Except Error Redirected) → Prop
  | unsent {outcome : Option (Except Error Redirected)}
      (hfailed : ∀ redirected, outcome ≠ some (.ok redirected)) : Passes [] outcome
  | stopped {hop : ChainHop} (hissues : hop.Issues state) : Passes [hop] none
  | failed {hop : ChainHop} (hissues : hop.Issues state) (error : Error)
      (hanswer : hop.answer = .error error) : Passes [hop] (some (.error error))
  | decided {hop : ChainHop} (hissues : hop.Issues state) (response : Response)
      (hanswer : hop.answer = .ok response) {verdict : Except Error Redirected}
      (hdecides : Decides session remaining hop.sent response verdict) :
      Passes [hop] (some verdict)

end Pass

section Traces

variable {session : Session} {remaining : Nat} {state : RedirectState}

variable {events : List ChainEvent} {outcome : Option (Except Error Redirected)}
  {response : Response}

theorem verdict_trace {verdict : Except Error Redirected}
    (htrace : Prog.Trace (Prog.pure verdict) events outcome)
    (hdecides : Decides session remaining state response verdict) :
    (∀ asked upgraded, hopsFrom asked upgraded events = []) ∧
      ∀ verdict ∈ outcome, Decides session remaining state response verdict := by
  obtain ⟨rfl, hresult⟩ := Prog.trace_pure.mp htrace
  refine ⟨fun _ _ => rfl, fun other hother => ?_⟩
  rcases hresult with rfl | rfl
  · exact absurd hother (not_mem_none _)
  · exact mem_some_iff.mp hother ▸ hdecides

theorem redirectDecide_trace
    (htrace : (redirectDecide session remaining state response).run.Trace events outcome) :
    (∀ asked upgraded, hopsFrom asked upgraded events = []) ∧
      ∀ verdict ∈ outcome, Decides session remaining state response verdict := by
  rw [redirectDecide] at htrace
  by_cases hfinal : isRedirection response.status = false ∨ session.redirectPolicy = .none
  · rw [if_pos (by rcases hfinal with hfinal | hfinal <;> simp [hfinal]),
      if_neg (by rcases hfinal with hfinal | hfinal <;> simp [hfinal])] at htrace
    exact verdict_trace htrace (.returned hfinal)
  obtain ⟨hredirection, hpolicy⟩ := not_or.mp hfinal
  rw [Bool.not_eq_false] at hredirection
  by_cases hremaining : remaining = 0
  · rw [if_pos (by simp [hremaining]), if_pos (by simp [hremaining, hredirection, hpolicy])]
      at htrace
    cases hlimit : session.redirectPolicy with
    | none => exact absurd hlimit hpolicy
    | follow limit =>
      rw [hlimit] at htrace
      exact verdict_trace htrace (.exhausted limit hredirection hlimit hremaining)
  rw [if_neg (by simp [hremaining, hredirection, hpolicy])] at htrace
  have hleft : 0 < remaining := Nat.pos_of_ne_zero hremaining
  cases htarget : redirectTarget session state response with
  | error error =>
    rw [htarget] at htrace
    exact verdict_trace htrace (.unresolved error hleft hredirection hpolicy htarget)
  | ok urls =>
    rw [htarget] at htrace
    rcases Prog.trace_perform.mp htrace with ⟨rfl, rfl⟩ | ⟨_, rest, rfl, hrest⟩
    · exact ⟨fun _ _ => rfl, fun _ hverdict => absurd hverdict (not_mem_none _)⟩
    · show (∀ asked upgraded, hopsFrom asked upgraded rest = []) ∧ _
      by_cases hstatus : isFollowedStatus response.status = true
      · rw [if_pos hstatus] at hrest
        exact verdict_trace hrest (.followed urls.1 urls.2 hleft hpolicy htarget hstatus)
      · rw [if_neg hstatus] at hrest
        exact verdict_trace hrest (.unfollowed urls.1 urls.2 hleft hredirection hpolicy
          htarget (Bool.not_eq_true _ ▸ hstatus))

/-- One pass issues at most one request, for the URL of its state. -/
theorem redirectPass_trace
    (htrace : (redirectPass session remaining state).run.Trace events outcome) (asked : Text)
    (upgraded : Option Text) :
    Passes session remaining state (hopsFrom asked upgraded events) outcome := by
  rcases Prog.trace_perform.mp htrace with ⟨rfl, rfl⟩ | ⟨upgrade, rest, rfl, hrest⟩
  · exact .unsent fun _ => nofun
  change Prog.Trace (Prog.bind (ExceptT.run (failIf (httpsOnlyRefuses session
    (upgrade.getD state.url)) _)) _) rest outcome at hrest
  cases hrefused : httpsOnlyRefuses session (upgrade.getD state.url) <;> rw [hrefused] at hrest
  case true =>
    obtain ⟨rfl, hresult⟩ := Prog.trace_pure.mp hrest
    apply Passes.unsent
    rintro redirected rfl
    rcases hresult with hresult | hresult
    · cases hresult
    · cases hresult
  rcases Prog.trace_perform.mp hrest with ⟨rfl, rfl⟩ | ⟨answer, rest, rfl, hanswered⟩
  · exact .unsent fun _ => nofun
  have hissues : ChainHop.Issues state ⟨state.url, upgrade,
      { state with url := upgrade.getD state.url }, answer⟩ := ⟨rfl, rfl⟩
  cases answer with
  | error error =>
    obtain ⟨rfl, hresult⟩ := Prog.trace_pure.mp hanswered
    rcases hresult with rfl | rfl
    · exact .stopped hissues
    · exact .failed hissues error rfl
  | ok response =>
    rcases Prog.trace_perform.mp hanswered with ⟨rfl, rfl⟩ | ⟨_, rest, rfl, hdecided⟩
    · exact .stopped hissues
    · obtain ⟨hnone, hverdict⟩ := redirectDecide_trace hdecided
      show Passes session remaining state
        (_ :: hopsFrom state.url upgrade rest) outcome
      rw [hnone]
      cases outcome with
      | none => exact .stopped hissues
      | some verdict => exact .decided hissues response rfl (hverdict verdict rfl)

end Traces

/-! ## The loop -/

/-- How the chain ends after a request. -/
inductive Ends (session : Session) (remaining : Nat) (hop : ChainHop) :
    Option (Except Error Response) → Prop
  | stopped : Ends session remaining hop none
  | failed (error : Error) (hanswer : hop.answer = .error error) :
      Ends session remaining hop (some (.error error))
  | refused (response : Response) (hanswer : hop.answer = .ok response) (error : Error)
      (hdecides : Decides session remaining hop.sent response (.error error)) :
      Ends session remaining hop (some (.error error))
  | returned (response : Response) (hanswer : hop.answer = .ok response) (final : Response)
      (hdecides : Decides session remaining hop.sent response (.ok (.done final))) :
      Ends session remaining hop (some (.ok final))

/-- What the loop requests and what it returns. -/
inductive Hops (session : Session) :
    Nat → RedirectState → List ChainHop → Option (Except Error Response) → Prop
  | unsent {remaining : Nat} {state : RedirectState} {outcome : Option (Except Error Response)}
      (hfailed : ∀ response, outcome ≠ some (.ok response)) :
      Hops session remaining state [] outcome
  | last {remaining : Nat} {state : RedirectState} {hop : ChainHop}
      {outcome : Option (Except Error Response)} (hissues : hop.Issues state)
      (hends : Ends session remaining hop outcome) : Hops session remaining state [hop] outcome
  | followed {remaining : Nat} {state next : RedirectState} {hop : ChainHop} {hops : List ChainHop}
      {outcome : Option (Except Error Response)} (hissues : hop.Issues state)
      (response : Response) (hanswer : hop.answer = .ok response)
      (hdecides : Decides session (remaining + 1) hop.sent response (.ok (.follow next)))
      (hrest : Hops session remaining next hops outcome) :
      Hops session (remaining + 1) state (hop :: hops) outcome

variable {outcome : Option (Except Error Response)} {events : List ChainEvent}

section Loop

variable {session : Session} {remaining : Nat} {state : RedirectState} {hops : List ChainHop}

theorem Passes.hops_none {outcome : Option (Except Error Redirected)}
    (hpasses : Passes session remaining state hops outcome) :
    Hops session remaining state hops none := by
  cases hpasses with
  | unsent => exact .unsent fun _ => nofun
  | stopped hissues | failed hissues | decided hissues => exact .last hissues .stopped

theorem redirectLoop_hops (htrace : (redirectLoop session remaining state).run.Trace events outcome)
    (asked : Text) (upgraded : Option Text) :
    Hops session remaining state (hopsFrom asked upgraded events) outcome := by
  induction remaining using Nat.strong_induction_on generalizing state events asked upgraded with
  | _ remaining ih =>
    rw [redirectLoop] at htrace
    rcases Prog.trace_bind htrace with
      ⟨rfl, hstopped⟩ | ⟨verdict, before, after, rfl, hpass, hafter⟩
    · exact (redirectPass_trace hstopped asked upgraded).hops_none
    have hpasses := redirectPass_trace hpass asked upgraded
    obtain ⟨asked', upgraded', happend⟩ := hopsFrom_append asked upgraded before after
    rw [happend]
    generalize hopsFrom asked upgraded before = hops at hpasses
    match verdict with
    | .error error =>
      obtain ⟨rfl, rfl | rfl⟩ := Prog.trace_pure.mp hafter
      · exact (append_nil _).symm ▸ hpasses.hops_none
      · cases hpasses with
        | unsent => exact .unsent fun _ => nofun
        | failed hissues error hanswer => exact .last hissues (.failed error hanswer)
        | decided hissues response hanswer hdecides =>
          exact .last hissues (.refused response hanswer error hdecides)
    | .ok (.done response) =>
      obtain ⟨rfl, rfl | rfl⟩ := Prog.trace_pure.mp hafter
      · exact (append_nil _).symm ▸ hpasses.hops_none
      · cases hpasses with
        | unsent hfailed => exact absurd rfl (hfailed _)
        | decided hissues answered hanswer hdecides =>
          exact .last hissues (.returned answered hanswer response hdecides)
    | .ok (.follow next) =>
      -- A pass that follows a redirect has one left, and the chain goes on with one less.
      cases hpasses with
      | unsent hfailed => exact absurd rfl (hfailed _)
      | decided hissues answered hanswer hdecides =>
        cases remaining with
        | zero => cases hdecides with | followed _ _ hremaining => cases hremaining
        | succ left =>
          have hrest := ih left (Nat.lt_succ_self left) hafter asked' upgraded'
          exact .followed hissues answered hanswer hdecides hrest

end Loop

variable {session : Session}

/-- The requests of `send_with_redirects` start from the URL of the request. -/
theorem sendWithRedirects_hops {request : RequestBuilder}
    (htrace : (sendWithRedirects session request).run.Trace events outcome) :
    ∃ url, (∀ hop ∈ (chainHops events).head?, requestUrl session request = .ok url) ∧
      Hops session (session.redirectPolicy.maxRedirects.getD 0)
        ⟨url, request.method, request.headers, request.body, request, []⟩ (chainHops events)
        outcome := by
  rw [sendWithRedirects] at htrace
  cases hurl : requestUrl session request with
  | error error =>
    rw [hurl] at htrace
    obtain ⟨rfl, hresult⟩ := Prog.trace_pure.mp htrace
    refine ⟨[], fun _ hhop => absurd hhop (not_mem_none _), .unsent ?_⟩
    rintro response rfl
    rcases hresult with hresult | hresult
    · cases hresult
    · cases hresult
  | ok url =>
    rw [hurl] at htrace
    exact ⟨url, fun _ _ => rfl, redirectLoop_hops htrace [] none⟩

/-! ## Exactness -/

/-- The redirects that were followed: each hop that has another one after it. -/
def followedHops : List ChainHop → List RedirectRecord
  | [] => []
  | hop :: hops =>
    match hop.answer, hops.head? with
    | .ok response, some next =>
      ⟨hop.sent.url, response.status, response.headers, next.asked⟩ :: followedHops hops
    | _, _ => followedHops hops

/-- A request is made because of a redirect that is followed: for the `Location` of the response,
resolved against the URL that was requested. -/
def Follows (session : Session) (first second : ChainHop) : Prop :=
  ∃ response location base target, first.answer = .ok response ∧
    isFollowedStatus response.status = true ∧
    (response.headers.get? "location".toList).bind headerText = some location ∧
    session.urls.parse first.sent.url = .ok base ∧ session.urls.join base location = .ok target ∧
    second.asked = session.urls.render target

/-- A response is one that is returned: it is not a redirect to follow. -/
def IsFinal (session : Session) (response : Response) : Prop :=
  isFollowedStatus response.status = false ∨ session.redirectPolicy = .none

/-- Redirects are followed exactly as the policy of the session says. -/
structure FollowsExactly (session : Session) (request : RequestBuilder) (hops : List ChainHop)
    (outcome : Option (Except Error Response)) : Prop where
  first : ∀ hop ∈ hops.head?, requestUrl session request = .ok hop.asked
  upgraded : ∀ hop ∈ hops, hop.sent.url = hop.upgraded.getD hop.asked
  followed : hops.IsChain (Follows session)
  bounded : hops.length ≤ session.redirectPolicy.maxRedirects.getD 0 + 1
  exceeded : ∀ limit hop response, session.redirectPolicy = .follow limit →
    hops[limit]? = some hop → hop.answer = .ok response →
      isFollowedStatus response.status = true →
        ∀ result ∈ outcome, result = .error (.tooManyRedirects limit)
  returned : ∀ before hop after response, hops = before ++ hop :: after →
    hop.answer = .ok response → IsFinal session response →
      after = [] ∧ ∀ result ∈ outcome,
        result = .ok { response with url := hop.sent.url, history := followedHops hops }
  final : ∀ result, outcome = some (.ok result) → ∃ hop response, hops.getLast? = some hop ∧
    hop.answer = .ok response ∧ IsFinal session response

theorem isRedirection_of_followed {status : Nat} (hfollowed : isFollowedStatus status = true) :
    isRedirection status = true := by
  simp only [isFollowedStatus, becomesGet, Bool.or_eq_true, Bool.and_eq_true, decide_eq_true_eq,
    beq_iff_eq] at hfollowed
  simp only [isRedirection, Bool.and_eq_true, decide_eq_true_eq]
  omega

theorem redirectTarget_ok {state : RedirectState} {response : Response} {base target : Url}
    (htarget : redirectTarget session state response = .ok (base, target)) :
    ∃ location, (response.headers.get? "location".toList).bind headerText = some location ∧
      session.urls.parse state.url = .ok base ∧ session.urls.join base location = .ok target := by
  revert htarget
  fun_cases redirectTarget with
  | case4 location hlocation _ hbase _ hjoin =>
    rintro ⟨⟩
    exact ⟨location, hlocation, hbase, hjoin⟩
  | _ => exact nofun

section Exact

variable {session : Session} {remaining : Nat} {state : RedirectState} {hops : List ChainHop}
  {outcome : Option (Except Error Response)}

/-- A redirect that is followed, in the terms of the next state. -/
structure Continues (session : Session) (state : RedirectState) (response : Response)
    (next : RedirectState) : Prop where
  policy : session.redirectPolicy ≠ .none
  status : isFollowedStatus response.status = true
  target : ∃ location base target,
    (response.headers.get? "location".toList).bind headerText = some location ∧
      session.urls.parse state.url = .ok base ∧ session.urls.join base location = .ok target ∧
      next.url = session.urls.render target
  history : next.history =
    state.history ++ [⟨state.url, response.status, response.headers, next.url⟩]

variable {response : Response} {next : RedirectState} {hop : ChainHop} {verdict : Except Error
  Redirected}

theorem Decides.continues
    (hdecides : Decides session remaining state response (.ok (.follow next))) :
    Continues session state response next := by
  cases hdecides with
  | followed base target hremaining hpolicy htarget hstatus =>
    obtain ⟨location, hlocation, hbase, hjoin⟩ := redirectTarget_ok htarget
    exact ⟨hpolicy, hstatus, ⟨location, base, target, hlocation, hbase, hjoin, rfl⟩, rfl⟩

theorem Continues.not_final
    (hcontinues : Continues session state response next) : ¬IsFinal session response := by
  rintro (hstatus | hpolicy)
  · exact Bool.noConfusion (hstatus.symm.trans hcontinues.status)
  · exact hcontinues.policy hpolicy

theorem ChainHop.Issues.upgraded (hissues : hop.Issues state) :
    hop.sent.url = hop.upgraded.getD hop.asked := by
  rw [hissues.sent, hissues.asked]

variable {limit : Nat}

/-- A redirect when none is left is refused. -/
theorem Decides.exceeded (hdecides : Decides session 0 state response verdict)
    (hpolicy : session.redirectPolicy = .follow limit)
    (hstatus : isFollowedStatus response.status = true) :
    verdict = .error (.tooManyRedirects limit) := by
  have hredirection := isRedirection_of_followed hstatus
  cases hdecides with
  | returned hfinal =>
    rcases hfinal with hfinal | hfinal
    · exact Bool.noConfusion (hfinal.symm.trans hredirection)
    · exact RedirectPolicy.noConfusion (hfinal.symm.trans hpolicy)
  | exhausted limit' _ hlimit =>
    cases hpolicy.symm.trans hlimit
    rfl
  | unresolved _ hremaining | unfollowed _ _ hremaining | followed _ _ hremaining =>
    exact absurd hremaining (Nat.lt_irrefl 0)

variable (hhops : Hops session remaining state hops outcome)
include hhops

theorem Hops.asked : ∀ hop ∈ hops.head?, hop.asked = state.url := by
  intro hop hmem
  cases hhops with
  | unsent => cases hmem
  | last hissues | followed hissues => exact mem_some_iff.mp hmem ▸ hissues.asked

theorem Hops.upgraded : ∀ hop ∈ hops, hop.sent.url = hop.upgraded.getD hop.asked := by
  induction hhops with
  | unsent => exact fun _ hmem => absurd hmem not_mem_nil
  | last hissues => exact fun _ hmem => mem_singleton.mp hmem ▸ hissues.upgraded
  | followed hissues response hanswer hdecides hrest ih =>
    intro hop hmem
    rcases mem_cons.mp hmem with rfl | hmem
    · exact hissues.upgraded
    · exact ih hop hmem

theorem Hops.isChain : hops.IsChain (Follows session) := by
  induction hhops with
  | unsent => exact .nil
  | last => exact .singleton _
  | @followed remaining state next hop hops outcome hissues response hanswer hdecides hrest ih =>
    cases hops with
    | nil => exact .singleton _
    | cons second =>
      obtain ⟨location, base, target, hlocation, hbase, hjoin, hurl⟩ :=
        hdecides.continues.target
      exact .cons_cons ⟨response, location, base, target, hanswer, hdecides.continues.status,
        hlocation, hbase, hjoin, (hrest.asked second rfl).trans hurl⟩ ih

theorem Hops.length_le : hops.length ≤ remaining + 1 := by
  induction hhops with
  | unsent => exact Nat.zero_le _
  | last => exact Nat.le_add_left _ _
  | followed hissues response hanswer hdecides hrest ih => exact Nat.succ_le_succ ih

theorem Hops.exceeded (hpolicy : session.redirectPolicy = .follow limit)
    (hhop : hops[remaining]? = some hop) (hanswer : hop.answer = .ok response)
    (hstatus : isFollowedStatus response.status = true) :
    ∀ result ∈ outcome, result = .error (.tooManyRedirects limit) := by
  induction hhops with
  | unsent => cases hhop
  | @last remaining state hop' outcome hissues hends =>
    cases remaining with
    | succ remaining => cases hhop
    | zero =>
      cases hhop
      cases hends with
      | stopped => exact fun _ => nofun
      | failed error herror => cases hanswer.symm.trans herror
      | refused response' hanswer' error hdecides =>
        cases hanswer.symm.trans hanswer'
        intro result hresult
        rw [← mem_some_iff.mp hresult]
        cases hdecides.exceeded hpolicy hstatus
        rfl
      | returned response' hanswer' final hdecides =>
        cases hanswer.symm.trans hanswer'
        cases hdecides.exceeded hpolicy hstatus
  | followed hissues response' hanswer' hdecides hrest ih => exact ih hhop

omit hhops

/-- A redirection that the loop looks at although it is none to follow. -/
def Unusual (session : Session) (response : Response) : Prop :=
  session.redirectPolicy ≠ .none ∧ isRedirection response.status = true ∧
    isFollowedStatus response.status = false

instance (session : Session) (response : Response) : Decidable (Unusual session response) :=
  inferInstanceAs (Decidable (_ ∧ _))

theorem Decides.usual (hdecides : Decides session remaining state response verdict)
    (hfinal : IsFinal session response) (husual : ¬Unusual session response) :
    verdict = .ok (.done { response with url := state.url, history := state.history }) := by
  have hunfollowed : session.redirectPolicy ≠ .none → isFollowedStatus response.status = false :=
    fun hpolicy => hfinal.resolve_right hpolicy
  cases hdecides with
  | returned => rfl
  | exhausted limit hredirection hlimit =>
    have hpolicy : session.redirectPolicy ≠ .none := by rw [hlimit]; nofun
    exact absurd ⟨hpolicy, hredirection, hunfollowed hpolicy⟩ husual
  | unresolved error hremaining hredirection hpolicy =>
    exact absurd ⟨hpolicy, hredirection, hunfollowed hpolicy⟩ husual
  | unfollowed base target hremaining hredirection hpolicy htarget hstatus =>
    exact absurd ⟨hpolicy, hredirection, hstatus⟩ husual
  | followed base target hremaining hpolicy htarget hstatus =>
    exact Bool.noConfusion (hstatus.symm.trans (hunfollowed hpolicy))

/-- An unusual redirection is an error, or its response has no URL and a redirect too many. -/
theorem Decides.unusual (hdecides : Decides session remaining state response verdict)
    (hunusual : Unusual session response) :
    verdict ≠ .ok (.done { response with url := state.url, history := state.history }) := by
  intro hverdict
  subst hverdict
  generalize hreturned : Except.ok (Redirected.done
    { response with url := state.url, history := state.history }) = verdict at hdecides
  cases hdecides with
  | returned hfinal =>
    rcases hfinal with hfinal | hfinal
    · exact Bool.noConfusion (hfinal.symm.trans hunusual.2.1)
    · exact hunusual.1 hfinal
  | exhausted | unresolved => cases hreturned
  | unfollowed base target =>
    injection hreturned with hreturned
    injection hreturned with hreturned
    have hhistory : state.history = state.history ++ [state.record session response target] :=
      congrArg Response.history hreturned
    exact cons_ne_nil _ _ (self_eq_append_right.mp hhistory)
  | followed => cases hreturned

/-- The history of a state and the redirects that follow. -/
theorem Continues.history_append {second : ChainHop} (hissues : hop.Issues state)
    (hcontinues : Continues session hop.sent response next) (hanswer : hop.answer = .ok response)
    (hhead : hops.head? = some second) (hasked : second.asked = next.url) :
    state.history ++ followedHops (hop :: hops) = next.history ++ followedHops hops := by
  have hstate : hop.sent.history = state.history := by rw [hissues.sent]
  rw [followedHops, hanswer, hhead, hcontinues.history, hstate, ← hasked, append_assoc]
  rfl

/-- How a chain ends after a response that is none to follow. -/
theorem Ends.final (hissues : hop.Issues state) (hends : Ends session remaining hop outcome)
    (hanswer : hop.answer = .ok response) (hfinal : IsFinal session response) :
    ∀ result ∈ outcome,
      (result = .ok
        { response with url := hop.sent.url, history := state.history ++ followedHops [hop] } ↔
        ¬Unusual session response) := by
  have hhistory : state.history ++ followedHops [hop] = hop.sent.history := by
    rw [hissues.sent, followedHops, hanswer]
    exact append_nil _
  rw [hhistory]
  intro result hresult
  cases hends with
  | stopped => cases hresult
  | failed error herror => cases hanswer.symm.trans herror
  | refused response' hanswer' error hdecides =>
    cases hanswer.symm.trans hanswer'
    cases mem_some_iff.mp hresult
    constructor
    · nofun
    · intro husual
      cases hdecides.usual hfinal husual
  | returned response' hanswer' final hdecides =>
    cases hanswer.symm.trans hanswer'
    cases mem_some_iff.mp hresult
    constructor
    · intro hreturned hunusual
      cases hreturned
      exact hdecides.unusual hunusual rfl
    · intro husual
      cases hdecides.usual hfinal husual
      rfl

/-- A response that is none to follow is the last one, and its status decides whether it is returned
as it is. -/
theorem Hops.final (hhops : Hops session remaining state hops outcome)
    {before after : List ChainHop} (hsplit : hops = before ++ hop :: after)
    (hanswer : hop.answer = .ok response) (hfinal : IsFinal session response) :
    after = [] ∧ ∀ result ∈ outcome,
      (result = .ok
        { response with url := hop.sent.url, history := state.history ++ followedHops hops } ↔
        ¬Unusual session response) := by
  induction hhops generalizing before with
  | unsent => exact absurd hsplit.symm (append_ne_nil_of_right_ne_nil _ (cons_ne_nil _ _))
  | last hissues hends =>
    cases before with
    | nil =>
      cases hsplit
      exact ⟨rfl, hends.final hissues hanswer hfinal⟩
    | cons first before =>
      have hempty := (cons.inj hsplit).2
      exact absurd hempty.symm (append_ne_nil_of_right_ne_nil _ (cons_ne_nil _ _))
  | @followed remaining state next first hops outcome hissues response' hanswer' hdecides hrest
      ih =>
      cases before with
      | nil =>
        cases hsplit
        cases hanswer.symm.trans hanswer'
        exact absurd hfinal hdecides.continues.not_final
      | cons first' before =>
        obtain ⟨rfl, hrest'⟩ := cons.inj hsplit
        obtain ⟨second, hhead⟩ : ∃ second, hops.head? = some second := by
          rw [hrest']
          cases before with
          | nil => exact ⟨hop, rfl⟩
          | cons second before => exact ⟨second, rfl⟩
        rw [hdecides.continues.history_append hissues hanswer' hhead
          (hrest.asked second hhead)]
        exact ih hrest'

/-- Only the answer to the last request is returned, and only if it is none to follow. -/
theorem Hops.returned (hhops : Hops session remaining state hops outcome) {result : Response}
    (hresult : outcome = some (.ok result)) :
    ∃ hop response, hops.getLast? = some hop ∧ hop.answer = .ok response ∧
      IsFinal session response := by
  induction hhops with
  | unsent hfailed => exact absurd hresult (hfailed result)
  | @last remaining state hop outcome hissues hends =>
    cases hends with
    | stopped | failed | refused => cases hresult
    | returned response hanswer final hdecides =>
      refine ⟨hop, response, rfl, hanswer, ?_⟩
      cases hdecides with
      | returned hfinal =>
        apply hfinal.imp_left
        intro hredirection
        by_contra hfollowed
        rw [Bool.not_eq_false] at hfollowed
        exact Bool.noConfusion (hredirection.symm.trans (isRedirection_of_followed hfollowed))
      | unfollowed _ _ _ _ _ _ hstatus => exact .inl hstatus
  | @followed remaining state next first hops outcome hissues response hanswer hdecides hrest ih =>
    obtain ⟨hop, response', hlast, hfinal⟩ := ih hresult
    refine ⟨hop, response', ?_, hfinal⟩
    rw [getLast?_cons, hlast]
    rfl

end Exact

/-- A run follows redirects exactly unless it meets a redirection that is none of the five: such a
response is not returned as it is. -/
theorem redirects_exact {session : Session} {request : RequestBuilder} {events : List ChainEvent}
    {outcome : Option (Except Error Response)}
    (htrace : (sendWithRedirects session request).run.Trace events outcome) :
    FollowsExactly session request (chainHops events) outcome ↔
      outcome = none ∨ ∀ hop ∈ chainHops events, ∀ response ∈ hop.answer.toOption,
        ¬Unusual session response := by
  have hanswered : ∀ {hop : ChainHop} {response : Response},
      response ∈ hop.answer.toOption ↔ hop.answer = .ok response := by
    intro hop response
    cases hop.answer with
    | error error => exact ⟨nofun, nofun⟩
    | ok response' => exact mem_some_iff.trans ⟨congrArg _, Except.ok.inj⟩
  obtain ⟨url, hurl, hhops⟩ := sendWithRedirects_hops htrace
  constructor
  · intro hexact
    by_contra hunusual
    obtain ⟨hreturned, hunusual⟩ := not_or.mp hunusual
    push Not at hunusual
    obtain ⟨hop, hhop, response, hresponse, hunusual⟩ := hunusual
    have hanswer := hanswered.mp hresponse
    obtain ⟨result, hresult⟩ := ne_none_iff_exists'.mp hreturned
    obtain ⟨before, after, hsplit⟩ := append_of_mem hhop
    have hfinal : IsFinal session response := .inl hunusual.2.2
    have hspec := (hexact.returned before hop after response hsplit hanswer hfinal).2 result hresult
    exact ((hhops.final hsplit hanswer hfinal).2 result hresult).mp hspec hunusual
  · intro husual
    refine ⟨fun hop hhop => hhops.asked hop hhop ▸ hurl hop hhop, hhops.upgraded, hhops.isChain,
      hhops.length_le, ?_, ?_, fun result => hhops.returned⟩
    · intro limit hop response hpolicy hhop hanswer hstatus
      rw [hpolicy] at hhops
      exact hhops.exceeded hpolicy hhop hanswer hstatus
    · intro before hop after response hsplit hanswer hfinal
      obtain ⟨hafter, hiff⟩ := hhops.final hsplit hanswer hfinal
      refine ⟨hafter, fun result hresult => (hiff result hresult).mpr ?_⟩
      rcases husual with hnone | husual
      · cases hnone.symm.trans hresult
      · exact husual hop (hsplit ▸ mem_append_right _ mem_cons_self) response
          (hanswered.mpr hanswer)

/-- A session for two pages of one host that follows redirects. -/
def shopSession (limit : Nat) : Session :=
  { Session.plain (.ofTable
      [("https://shop.test/".toList,
          ⟨"https".toList, [], none, some "shop.test".toList, none, "/".toList, none, none⟩),
        ("https://shop.test/cart".toList,
          ⟨"https".toList, [], none, some "shop.test".toList, none, "/cart".toList, none, none⟩)])
    with redirectPolicy := .follow limit }

def shopRequest : RequestBuilder := .plain "GET".toList "https://shop.test/".toList

/-- Answers for a chain: nothing is upgraded, and the hops get the responses in turn. -/
def scripted (responses : List Response) (past : List ChainEvent) : (op : ChainOp) → ChainAns op
  | .upgrade _ => none
  | .single _ => (responses[(chainHops past).length]?).elim
      (.error (.timeout "no answer".toList none)) .ok
  | .learnSts .. => ()
  | .log _ => ()
  | .shouldRetry .. => false

def plainResponse (status : Nat) (headers : HeaderMap) : Response :=
  ⟨status, headers, [], .http11, [], []⟩

/-- A run of the shop's session against given responses. -/
def shopRun (limit : Nat) (responses : List Response) : List ChainEvent × Except Error Response :=
  (sendWithRedirects (shopSession limit) shopRequest).run.run (scripted responses) [] []

theorem redirects_exact_cart :
    let run := shopRun 1
      [plainResponse 302 [("location".toList, ["https://shop.test/cart".toList])],
        plainResponse 200 []]
    run.2.toOption.map Response.url = some "https://shop.test/cart".toList ∧
      FollowsExactly (shopSession 1) shopRequest (chainHops run.1) (some run.2) := by
  constructor
  · decide +kernel
  · apply (redirects_exact (Prog.trace_run _ _ _ _)).mpr
    decide +kernel

/-- A `304` without a `Location` is an error for a session that follows redirects. -/
theorem not_modified_refused :
    let run := shopRun 10 [plainResponse 304 []]
    run.2 = .error (.http "redirect response missing Location header".toList) ∧
      (sendWithRedirects (shopSession 10) shopRequest).run.Trace run.1 (some run.2) ∧
      ¬FollowsExactly (shopSession 10) shopRequest (chainHops run.1) (some run.2) := by
  have hrun : (shopRun 10 [plainResponse 304 []]).2 =
      .error (.http "redirect response missing Location header".toList) := by decide +kernel
  have hhop : ∃ hop ∈ chainHops (shopRun 10 [plainResponse 304 []]).1,
      hop.answer = .ok (plainResponse 304 []) := by
    decide +kernel
  refine ⟨hrun, Prog.trace_run _ _ _ _, fun hexact => ?_⟩
  obtain ⟨hop, hhop, hanswer⟩ := hhop
  obtain ⟨before, after, hsplit⟩ := append_of_mem hhop
  have hreturned := (hexact.returned before hop after _ hsplit hanswer (.inl rfl)).2 _ rfl
  cases hrun.symm.trans hreturned

end LkRequest.Client
