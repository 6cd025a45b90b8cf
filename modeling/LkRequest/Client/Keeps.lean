import LkRequest.Client.Streaming

/-!
# Rules for fallible code

`Keeps` is `Always` for code that returns a `Result`: every operation meets the demand, and a value
that is returned meets the postcondition. One rule for each way in which the pipeline puts code
together.
-/

namespace LkRequest.Client

open Library

variable {α β ε : Type} {result : Except ε α}

variable {mid : α → Prop}

section Rules

variable {O : Type} {A : O → Type} {rely : (op : O) → A op → Prop} {guarantee : O → Prop}

/-- What is demanded of a result: nothing if it is an error. -/
def OnOk {ε : Type} (post : α → Prop) : Except ε α → Prop
  | .ok value => post value
  | .error _ => True

/-- Every operation of the code meets the demand, and a returned value meets `post`. -/
def Keeps (rely : (op : O) → A op → Prop) (guarantee : O → Prop)
    (code : ExceptT Error (Prog O A) α) (post : α → Prop) : Prop :=
  code.run.Always rely guarantee (OnOk post)

/-- The same, whatever is returned. -/
abbrev Meets (rely : (op : O) → A op → Prop) (guarantee : O → Prop)
    (code : ExceptT Error (Prog O A) α) : Prop :=
  Keeps rely guarantee code fun _ => True

namespace Keeps

variable {post : α → Prop} {error : Error} {code yes : ExceptT Error (Prog O A) α}
  {condition : Prop}

theorem pure {value : α} (hpost : post value) :
    Keeps rely guarantee (Pure.pure value : ExceptT Error (Prog O A) α) post := hpost

theorem throw :
    Keeps rely guarantee (MonadExcept.throw error : ExceptT Error (Prog O A) α) post := trivial

theorem mono {post' : α → Prop} (hcode : Keeps rely guarantee code post)
    (hpost : ∀ value, post value → post' value) : Keeps rely guarantee code post' := by
  apply Prog.Always.mono hcode
  intro result hresult
  cases result with
  | error error => trivial
  | ok value => exact hpost value hresult

theorem bind {rest : α → ExceptT Error (Prog O A) β} {post : β → Prop}
    (hcode : Keeps rely guarantee code mid)
    (hrest : ∀ value, mid value → Keeps rely guarantee (rest value) post) :
    Keeps rely guarantee (code >>= rest) post := by
  apply Prog.always_bind.mpr
  apply Prog.Always.mono hcode
  intro result hresult
  cases result with
  | error error => exact trivial
  | ok value => exact hrest value hresult

/-- Code whose value is not used. -/
theorem seq {rest : ExceptT Error (Prog O A) β} {post : β → Prop}
    (hcode : Keeps rely guarantee code mid) (hrest : Keeps rely guarantee rest post) :
    Keeps rely guarantee (code >>= fun _ => rest) post :=
  bind hcode fun _ _ => hrest

theorem lift {task : Prog O A α} (htask : task.Always rely guarantee post) :
    Keeps rely guarantee (ExceptT.lift task : ExceptT Error (Prog O A) α) post := by
  apply Prog.always_bind.mpr
  exact Prog.Always.mono htask fun _ hvalue => hvalue

theorem orError {error : ε → Error} {result : Except ε α}
    (hresult : OnOk post result) : Keeps rely guarantee (Client.orError error result) post := by
  cases result with
  | error reason => exact throw
  | ok value => exact pure hresult

theorem ite [Decidable condition] {no : ExceptT Error (Prog O A) α}
    (hyes : condition → Keeps rely guarantee yes post)
    (hno : ¬condition → Keeps rely guarantee no post) :
    Keeps rely guarantee (if condition then yes else no) post := by
  split
  · exact hyes ‹_›
  · exact hno ‹_›

theorem orThrow [Decidable condition] (hyes : Keeps rely guarantee yes post) :
    Keeps rely guarantee (if condition then yes else MonadExcept.throw error) post :=
  ite (fun _ => hyes) fun _ => throw

theorem failIf {condition : Bool} :
    Keeps rely guarantee (Client.failIf condition error) fun _ => condition = false := by
  rw [Client.failIf]
  split
  · exact throw
  · rename_i hcondition
    exact pure (Bool.eq_false_iff.mpr hcondition)

end Keeps

end Rules

variable {post : α → Prop}

theorem OnOk.of_ok (hresult : ∀ value, result = .ok value → post value) : OnOk post result := by
  cases result with
  | error reason => trivial
  | ok value => exact hresult value rfl

theorem OnOk.trivial (result : Except ε α) : OnOk (fun _ => True) result :=
  .of_ok fun _ _ => True.intro

/-- A failure is passed on, and nothing is asked of the value. -/
theorem Keeps.orFail {O : Type} {A : O → Type} {rely : (op : O) → A op → Prop}
    {guarantee : O → Prop} {error : ε → Error}
    {rest : α → ExceptT Error (Prog O A) β} {post : β → Prop}
    (hrest : ∀ value, Keeps rely guarantee (rest value) post) :
    Keeps rely guarantee (Client.orError error result >>= rest) post :=
  .bind (.orError (.trivial _)) fun value _ => hrest value

section Pipeline

variable {rely : (op : Op) → Ans op → Prop} {guarantee : Op → Prop} {op : Op} {error : ε → Error}
  {read : Ans op → Except ε α}

namespace Keeps

theorem perform {op : Op} {post : Ans op → Prop} (hop : guarantee op)
    (hpost : ∀ answer, rely op answer → post answer) :
    Keeps rely guarantee (Client.perform op) post :=
  lift ⟨hop, hpost⟩

variable {code : Async α} {post : α → Prop}

theorem attempt (hcode : Keeps rely guarantee code post) :
    Keeps rely guarantee (Client.attempt code) (OnOk post) :=
  lift hcode

theorem recover {rest : Except Error α → Async β} {post : β → Prop}
    (hcode : Keeps rely guarantee code mid)
    (hok : ∀ value, mid value → Keeps rely guarantee (rest (.ok value)) post)
    (herror : ∀ error, Keeps rely guarantee (rest (.error error)) post) :
    Keeps rely guarantee (Client.attempt code >>= rest) post := by
  apply bind (attempt hcode)
  intro result hresult
  cases result with
  | ok value => exact hok value hresult
  | error error => exact herror error

theorem withTimeout {error : Error} (hcode : Keeps rely guarantee code post) :
    Keeps rely guarantee (Client.withTimeout error code) post := by
  apply Prog.always_bind.mpr
  apply Prog.Always.timeout hcode
  · intro result hresult
    exact hresult
  · exact trivial

theorem runIf {condition : Bool} {code : Async Unit}
    (hcode : condition = true → Meets rely guarantee code) :
    Meets rely guarantee (Client.runIf condition code) := by
  rw [Client.runIf]
  split
  · exact hcode ‹_›
  · exact pure True.intro

end Keeps

/-- A question in code without errors. -/
theorem always_ask {rest : Ans op → Task α} (hop : guarantee op)
    (hrest : ∀ answer, rely op answer → (rest answer).Always rely guarantee post) :
    (ask op >>= rest).Always rely guarantee post :=
  ⟨hop, hrest⟩

/-- What an answer is not asked about is always so. -/
theorem Keeps.quiet (hop : guarantee op) : Meets rely guarantee (Client.perform op) :=
  .perform hop fun _ _ => True.intro

/-- An operation whose failure is passed on. -/
theorem Keeps.checked (hop : guarantee op) :
    Meets rely guarantee (Client.perform op >>= fun answer => Client.orError error (read answer)) :=
  .bind (.quiet hop) fun answer _ => .orError (OnOk.trivial (read answer))

/-- An operation whose failure is passed on, and the code after it. -/
theorem Keeps.answered {rest : α → Async β} {post : β → Prop} (hop : guarantee op)
    (hrest : ∀ value, Keeps rely guarantee (rest value) post) :
    Keeps rely guarantee
      (Client.perform op >>= fun answer => Client.orError error (read answer) >>= rest) post :=
  .bind (.quiet hop) fun _ _ => .orFail hrest

end Pipeline

end LkRequest.Client
