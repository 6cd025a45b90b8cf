import Mathlib.Data.List.Induction

/-!
# Programs with effects

A program is a tree of operations: it asks its environment, branches on the answer, and may leave a
choice to the scheduler. Futures that race and futures that are dropped at a deadline are programs
again. `Holds` says that a program keeps to a monitor, whatever the environment answers within the
monitor's assumptions. `SharedRun.invariant` carries this over to any interleaving of programs.
-/

namespace LkRequest.Library

open List

variable {Op : Type} {Ans : Op → Type} {α β σ ι : Type}

/-- A program over the operations `Op`, where `Ans op` is the type of the answers to `op`. -/
inductive Prog (Op : Type) (Ans : Op → Type) (α : Type) where
  | pure (value : α)
  | perform (op : Op) (next : Ans op → Prog Op Ans α)
  | choose (next : Bool → Prog Op Ans α)

namespace Prog

protected def bind : Prog Op Ans α → (α → Prog Op Ans β) → Prog Op Ans β
  | pure value, rest => rest value
  | perform op next, rest => perform op fun answer => (next answer).bind rest
  | choose next, rest => choose fun side => (next side).bind rest

instance : Monad (Prog Op Ans) where
  pure := pure
  bind := Prog.bind

/-- Perform one operation. -/
def op (op : Op) : Prog Op Ans (Ans op) := perform op pure

/-! ## Futures -/

/-- Drive a program while a timer runs. If the timer fires first, what is left is handed back. -/
def untilTimer : Prog Op Ans α → Prog Op Ans (α ⊕ Prog Op Ans α)
  | pure value => pure (.inl value)
  | perform op next =>
    choose fun fired =>
      if fired then pure (.inr (perform op next))
      else perform op fun answer => (next answer).untilTimer
  | choose next => choose fun side => (next side).untilTimer

/-- `tokio::time::timeout`: the program is dropped when the timer fires. -/
def timeout (program : Prog Op Ans α) : Prog Op Ans (Option α) :=
  program.untilTimer.bind fun
    | .inl value => pure (some value)
    | .inr _ => pure none

/-- One side of a race has an operation to perform, the other side is driven. -/
def raceWith (first : Op) (left : Ans first → Prog Op Ans α)
    (rest : Ans first → Prog Op Ans β → Prog Op Ans ((α × Prog Op Ans β) ⊕ (Prog Op Ans α × β))) :
    Prog Op Ans β → Prog Op Ans ((α × Prog Op Ans β) ⊕ (Prog Op Ans α × β))
  | pure value => pure (.inr (perform first left, value))
  | perform op next =>
    choose fun side =>
      if side then perform first fun answer => rest answer (perform op next)
      else perform op fun answer => raceWith first left rest (next answer)
  | choose next => choose fun side => raceWith first left rest (next side)

/-- `tokio::select! { biased; .. }` on two futures: the result of the one that finishes first, and
what is left of the other. -/
def race : Prog Op Ans α → Prog Op Ans β → Prog Op Ans ((α × Prog Op Ans β) ⊕ (Prog Op Ans α × β))
  | pure value, right => pure (.inl (value, right))
  | perform op next, right => raceWith op next (fun answer => race (next answer)) right
  | choose next, right => choose fun side => race (next side) right

/-! ## Handlers -/

/-- Run a program whose operations are programs over other operations. -/
def handle {Op' : Type} {Ans' : Op' → Type} (handler : (op : Op) → Prog Op' Ans' (Ans op)) :
    Prog Op Ans α → Prog Op' Ans' α
  | pure value => pure value
  | perform op next => (handler op).bind fun answer => (next answer).handle handler
  | choose next => choose fun side => (next side).handle handler

/-! ## Runs -/

/-- An operation and the answer it got. -/
abbrev Event (Op : Type) (Ans : Op → Type) : Type := Sigma Ans

/-- The program performs these operations with these answers, and then either is stopped or
returns. -/
inductive Trace : Prog Op Ans α → List (Event Op Ans) → Option α → Prop
  | stopped (program : Prog Op Ans α) : Trace program [] none
  | returned (value : α) : Trace (pure value) [] (some value)
  | performed {op : Op} {next : Ans op → Prog Op Ans α} {events : List (Event Op Ans)}
      {result : Option α} (answer : Ans op) (rest : Trace (next answer) events result) :
      Trace (perform op next) (⟨op, answer⟩ :: events) result
  | chosen {next : Bool → Prog Op Ans α} {events : List (Event Op Ans)} {result : Option α}
      (side : Bool) (rest : Trace (next side) events result) : Trace (choose next) events result

variable {events : List (Event Op Ans)} {result : Option α} {program : Prog Op Ans α}

variable {value : α}

theorem trace_pure :
    Trace (pure value : Prog Op Ans α) events result ↔
      events = [] ∧ (result = none ∨ result = some value) := by
  constructor
  · intro htrace
    cases htrace with
    | stopped => exact ⟨rfl, .inl rfl⟩
    | returned => exact ⟨rfl, .inr rfl⟩
  · rintro ⟨rfl, rfl | rfl⟩
    · exact .stopped _
    · exact .returned value

theorem trace_perform {op : Op} {next : Ans op → Prog Op Ans α} :
    Trace (perform op next) events result ↔
      (events = [] ∧ result = none) ∨
        ∃ answer rest, events = ⟨op, answer⟩ :: rest ∧ Trace (next answer) rest result := by
  constructor
  · intro htrace
    cases htrace with
    | stopped => exact .inl ⟨rfl, rfl⟩
    | performed answer hrest => exact .inr ⟨answer, _, rfl, hrest⟩
  · rintro (⟨rfl, rfl⟩ | ⟨answer, rest, rfl, hrest⟩)
    · exact .stopped _
    · exact .performed answer hrest

variable {rest : α → Prog Op Ans β}

/-- A run of one program after another stops in the first or goes through it. -/
theorem trace_bind {result : Option β} (htrace : Trace (program.bind rest) events result) :
    (result = none ∧ Trace program events none) ∨
      ∃ value before after, events = before ++ after ∧ Trace program before (some value) ∧
        Trace (rest value) after result := by
  induction program generalizing events with
  | pure value => exact .inr ⟨value, [], events, rfl, .returned value, htrace⟩
  | perform op next ih =>
    rcases trace_perform.mp htrace with ⟨rfl, rfl⟩ | ⟨answer, later, rfl, hlater⟩
    · exact .inl ⟨rfl, .stopped _⟩
    · rcases ih answer hlater with
        ⟨hresult, hstopped⟩ | ⟨value, before, after, rfl, hbefore, hafter⟩
      · exact .inl ⟨hresult, .performed answer hstopped⟩
      · exact .inr ⟨value, _, after, rfl, .performed answer hbefore, hafter⟩
  | choose next ih =>
    cases htrace with
    | stopped => exact .inl ⟨rfl, .stopped _⟩
    | chosen side hside =>
      rcases ih side hside with
        ⟨hresult, hstopped⟩ | ⟨value, before, after, rfl, hbefore, hafter⟩
      · exact .inl ⟨hresult, .chosen side hstopped⟩
      · exact .inr ⟨value, before, after, rfl, .chosen side hbefore, hafter⟩

/-- Run a program: the environment answers from the past, the scheduler decides by a list. -/
def run (environment : List (Event Op Ans) → (op : Op) → Ans op) :
    Prog Op Ans α → List Bool → List (Event Op Ans) → List (Event Op Ans) × α
  | pure value, _, _ => ([], value)
  | perform op next, choices, past =>
    let answer := environment past op
    let rest := run environment (next answer) choices (past ++ [⟨op, answer⟩])
    (⟨op, answer⟩ :: rest.1, rest.2)
  | choose next, choices, past =>
    run environment (next (choices.headD false)) choices.tail past

theorem trace_run (environment : List (Event Op Ans) → (op : Op) → Ans op)
    (program : Prog Op Ans α) (choices : List Bool) (past : List (Event Op Ans)) :
    Trace program (program.run environment choices past).1
      (some (program.run environment choices past).2) := by
  induction program generalizing choices past with
  | pure value => exact .returned value
  | perform op next ih => exact .performed _ (ih _ _ _)
  | choose next ih => exact .chosen _ (ih _ _ _)

/-- Every answer in a run is one of the environment. -/
theorem mem_run {environment : List (Event Op Ans) → (op : Op) → Ans op}
    {choices : List Bool} {past : List (Event Op Ans)}
    {event : Event Op Ans} (hevent : event ∈ (program.run environment choices past).1) :
    ∃ before, event.2 = environment before event.1 := by
  induction program generalizing choices past with
  | pure value => cases hevent
  | perform op next ih =>
    rcases mem_cons.mp hevent with rfl | hevent
    · exact ⟨past, rfl⟩
    · exact ih _ hevent
  | choose next ih => exact ih _ hevent

/-! ## Monitors -/

/-- A monitor follows a program in a ghost state. It may assume `rely` of every answer and demands
`guarantee` of every operation. -/
structure Monitor (Op : Type) (Ans : Op → Type) (σ : Type) where
  update : σ → (op : Op) → Ans op → σ
  rely : σ → (op : Op) → Ans op → Prop
  guarantee : σ → Op → Prop

/-- Every operation of the program keeps to the monitor, and a result meets `post`. -/
def Holds (monitor : Monitor Op Ans σ) : Prog Op Ans α → σ → (σ → α → Prop) → Prop
  | pure value, state, post => post state value
  | perform op next, state, post =>
    monitor.guarantee state op ∧
      ∀ answer, monitor.rely state op answer →
        (next answer).Holds monitor (monitor.update state op answer) post
  | choose next, state, post => ∀ side, (next side).Holds monitor state post

section Rules

variable {monitor : Monitor Op Ans σ} {state : σ} {post post' : σ → α → Prop}

variable {program : Prog Op Ans α}

theorem Holds.mono (hholds : program.Holds monitor state post)
    (hpost : ∀ state value, post state value → post' state value) :
    program.Holds monitor state post' := by
  induction program generalizing state with
  | pure value => exact hpost _ _ hholds
  | perform op next ih =>
    exact ⟨hholds.1, fun answer hrely => ih answer (hholds.2 answer hrely)⟩
  | choose next ih => exact fun side => ih side (hholds side)

theorem holds_bind {post : σ → β → Prop} :
    (program.bind rest).Holds monitor state post ↔
      program.Holds monitor state fun state value => (rest value).Holds monitor state post := by
  induction program generalizing state with
  | pure value => exact Iff.rfl
  | perform op next ih =>
    exact and_congr_right fun _ => forall_congr' fun answer => imp_congr_right fun _ => ih answer
  | choose next ih => exact forall_congr' fun side => ih side

theorem Holds.untilTimer (hholds : program.Holds monitor state post) :
    program.untilTimer.Holds monitor state fun state result =>
      match result with
      | .inl value => post state value
      | .inr left => left.Holds monitor state post := by
  induction program generalizing state with
  | pure value => exact hholds
  | perform op next ih =>
    intro fired
    cases fired with
    | true => exact hholds
    | false => exact ⟨hholds.1, fun answer hrely => ih answer (hholds.2 answer hrely)⟩
  | choose next ih => exact fun side => ih side (hholds side)

theorem Holds.timeout (hholds : program.Holds monitor state post) {post' : σ → Option α → Prop}
    (hdone : ∀ state value, post state value → post' state (some value))
    (hfired : ∀ state, post' state none) : program.timeout.Holds monitor state post' := by
  apply holds_bind.mpr
  apply hholds.untilTimer.mono
  intro state result hresult
  cases result with
  | inl value => exact hdone state value hresult
  | inr left => exact hfired state

end Rules

variable {last : Event Op Ans} {later : List (Event Op Ans)}

/-- The monitor's demand on the operations that a program performs holds along every run whose
answers are as the monitor assumes. -/
theorem Holds.trace {monitor : Monitor Op Ans σ} {state : σ} {post : σ → α → Prop}
    (hholds : program.Holds monitor state post)
    (htrace : program.Trace (events ++ last :: later) result)
    (hrely : ∀ before event after, events = before ++ event :: after →
      monitor.rely (before.foldl (fun state event => monitor.update state event.1 event.2) state)
        event.1 event.2) :
    monitor.guarantee
      (events.foldl (fun state event => monitor.update state event.1 event.2) state) last.1 := by
  generalize hall : events ++ last :: later = all at htrace
  induction htrace generalizing state events with
  | stopped program | returned value => simp at hall
  | @performed op next rest result answer hrest ih =>
    cases events with
    | nil =>
      obtain ⟨rfl, -⟩ := cons.inj hall
      exact hholds.1
    | cons event events =>
      obtain ⟨rfl, hevents⟩ := cons.inj hall
      apply ih (hholds.2 answer (hrely [] _ events rfl)) _ hevents
      intro before event after hsplit
      exact hrely (⟨op, answer⟩ :: before) event after (by rw [hsplit, cons_append])
  | chosen side hrest ih => exact ih (hholds side) hrely hall

/-! ## Monitors without a state -/

/-- A monitor that looks at each operation and each answer by itself. -/
def Monitor.plain (rely : (op : Op) → Ans op → Prop) (guarantee : Op → Prop) :
    Monitor Op Ans Unit where
  update _ _ _ := ()
  rely _ := rely
  guarantee _ := guarantee

/-- `Holds` for a monitor without a state. -/
def Always (rely : (op : Op) → Ans op → Prop) (guarantee : Op → Prop)
    (program : Prog Op Ans α) (post : α → Prop) : Prop :=
  program.Holds (.plain rely guarantee) () fun _ => post

section Plain

variable {rely : (op : Op) → Ans op → Prop} {guarantee : Op → Prop}

variable {post : α → Prop} {program : Prog Op Ans α}

theorem always_pure : (pure value : Prog Op Ans α).Always rely guarantee post ↔ post value :=
  Iff.rfl

theorem always_bind {post : β → Prop} :
    (program.bind rest).Always rely guarantee post ↔
      program.Always rely guarantee fun value => (rest value).Always rely guarantee post :=
  holds_bind

variable (halways : program.Always rely guarantee post)
include halways

theorem Always.mono {post' : α → Prop} (hpost : ∀ value, post value → post' value) :
    program.Always rely guarantee post' :=
  Holds.mono halways fun _ => hpost

theorem Always.weaken {guarantee' : Op → Prop}
    (hguarantee : ∀ op, guarantee op → guarantee' op) : program.Always rely guarantee' post := by
  induction program with
  | pure value => exact halways
  | perform op next ih =>
    exact ⟨hguarantee op halways.1, fun answer hrely => ih answer (halways.2 answer hrely)⟩
  | choose next ih => exact fun side => ih side (halways side)

theorem Always.untilTimer :
    program.untilTimer.Always rely guarantee fun result =>
      match result with
      | .inl value => post value
      | .inr left => left.Always rely guarantee post :=
  Holds.untilTimer halways

theorem Always.timeout {post' : Option α → Prop}
    (hdone : ∀ value, post value → post' (some value)) (hfired : post' none) :
    program.timeout.Always rely guarantee post' :=
  Holds.timeout halways (fun _ => hdone) fun _ => hfired

omit halways in
/-- What holds of both sides of a race holds of the race. -/
theorem Always.race {left : Prog Op Ans α} {right : Prog Op Ans β} {post' : β → Prop}
    (hleft : left.Always rely guarantee post) (hright : right.Always rely guarantee post') :
    (left.race right).Always rely guarantee fun result =>
      match result with
      | .inl (value, rest) => post value ∧ rest.Always rely guarantee post'
      | .inr (rest, value) => rest.Always rely guarantee post ∧ post' value := by
  induction left generalizing right with
  | pure value => exact ⟨hleft, hright⟩
  | perform op next ih =>
    -- The left side waits with its operation while the right side is driven.
    show (raceWith op next _ right).Always _ _ _
    induction right with
    | pure value => exact ⟨hleft, hright⟩
    | perform op' next' ih' =>
      intro side
      cases side with
      | true => exact ⟨hleft.1, fun answer hrely => ih answer (hleft.2 answer hrely) hright⟩
      | false => exact ⟨hright.1, fun answer hrely => ih' answer (hright.2 answer hrely)⟩
    | choose next' ih' => exact fun side => ih' side (hright side)
  | choose next ih => exact fun side => ih side (hleft side) hright

/-- A program keeps to a demand if its handlers do, given what it demands of the operations that
are handled. -/
theorem Always.handle {Op' : Type} {Ans' : Op' → Type} {rely' : (op : Op') → Ans' op → Prop}
    {guarantee' : Op' → Prop} {handler : (op : Op) → Prog Op' Ans' (Ans op)}
    (hhandler : ∀ op, guarantee op → (handler op).Always rely' guarantee' (rely op)) :
    (program.handle handler).Always rely' guarantee' post := by
  induction program with
  | pure value => exact halways
  | perform op next ih =>
    apply always_bind.mpr
    apply (hhandler op halways.1).mono
    intro answer hanswer
    exact ih answer (halways.2 answer hanswer)
  | choose next ih => exact fun side => ih side (halways side)

/-- Along a run the demand holds of the next operation if the answers so far are as assumed. -/
theorem Always.trace {events : List (Event Op Ans)} {result : Option α}
    (htrace : program.Trace (events ++ last :: later) result)
    (hrely : ∀ event ∈ events, rely event.1 event.2) : guarantee last.1 := by
  apply Holds.trace halways htrace
  intro before event after hsplit
  exact hrely event (by rw [hsplit]; simp)

end Plain

/-! ## Programs side by side -/

/-- The events of one task in a history of all tasks. -/
def eventsOf [DecidableEq ι] (task : ι) (history : List (ι × Event Op Ans)) : List (Event Op Ans) :=
  history.filterMap fun entry => if entry.1 = task then some entry.2 else none

/-- A history of tasks that run side by side: each task runs its own program. -/
def SharedRun [DecidableEq ι] (tasks : ι → Prog Op Ans Unit)
    (history : List (ι × Event Op Ans)) : Prop :=
  ∀ task, ∃ result, (tasks task).Trace (eventsOf task history) result

/-- The rule for tasks that share an environment. If the answer to an operation is as its task
assumes whenever the demands were met before, and a task keeps to its demand once it has started,
then the demands and the assumptions hold along the whole history. -/
theorem SharedRun.invariant [DecidableEq ι] {tasks : ι → Prog Op Ans Unit}
    {history : List (ι × Event Op Ans)} (hrun : SharedRun tasks history)
    {rely : ι → (op : Op) → Ans op → Prop} (guarantee : ι → Op → Prop)
    (htasks : ∀ before entry after, history = before ++ entry :: after →
      (∀ earlier ∈ before, guarantee earlier.1 earlier.2.1 ∧
        rely earlier.1 earlier.2.1 earlier.2.2) →
          (tasks entry.1).Always (rely entry.1) (guarantee entry.1) fun _ => True)
    (hanswers : ∀ before entry after, history = before ++ entry :: after →
      (∀ earlier ∈ before, guarantee earlier.1 earlier.2.1 ∧
        rely earlier.1 earlier.2.1 earlier.2.2) →
          guarantee entry.1 entry.2.1 → rely entry.1 entry.2.1 entry.2.2) :
    ∀ entry ∈ history, guarantee entry.1 entry.2.1 ∧ rely entry.1 entry.2.1 entry.2.2 := by
  -- Induction on the part of the history that is over.
  suffices hprefix : ∀ before after, history = before ++ after →
      ∀ entry ∈ before, guarantee entry.1 entry.2.1 ∧ rely entry.1 entry.2.1 entry.2.2 from
    hprefix history [] (append_nil history).symm
  intro before
  induction before using reverseRecOn with
  | nil => intro after _ entry hentry; simp at hentry
  | append_singleton before last ih =>
    intro after hsplit entry hentry
    have hhistory : history = before ++ last :: after := by simpa using hsplit
    have hbefore := ih (last :: after) hhistory
    rcases mem_append.mp hentry with hentry | hentry
    · exact hbefore entry hentry
    · obtain rfl : entry = last := by simpa using hentry
      obtain ⟨result, htrace⟩ := hrun entry.1
      have hevents : eventsOf entry.1 history =
          eventsOf entry.1 before ++ entry.2 :: eventsOf entry.1 after := by
        rw [hhistory]
        simp [eventsOf]
      rw [hevents] at htrace
      have hguarantee : guarantee entry.1 entry.2.1 := by
        apply (htasks before entry after hhistory hbefore).trace htrace
        intro event hevent
        obtain ⟨earlier, hearlier, heq⟩ := mem_filterMap.mp hevent
        split at heq
        next htask =>
          obtain rfl := Option.some.inj heq
          rw [← htask]
          exact (hbefore earlier hearlier).2
        · cases heq
      exact ⟨hguarantee, hanswers before entry after hhistory hbefore hguarantee⟩

end Prog

end LkRequest.Library
