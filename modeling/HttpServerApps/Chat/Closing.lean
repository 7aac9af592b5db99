import HttpServerApps.Chat.Conversations

namespace Chat

open Common Http Sessions

/-! What the handlers make of a response that is to close the connection. -/

section

variable {State Problem : Type} (respOf : State → HttpResponse)

def WithClose (close : Bool) (state : State) : Prop := (respOf state).closeConnection = close

/-- The response stays one that closes. -/
def StaysClosing (call : Throwing State Problem Unit) : Prop :=
  Throwing.Triple (WithClose respOf true) call (fun _ => WithClose respOf true) fun _ => WithClose respOf true

/-- A call that returns has made the response one that keeps the connection; one that throws has not. -/
def KeepsOpen (call : Throwing State Problem Unit) : Prop :=
  Throwing.Triple (WithClose respOf true) call (fun _ => WithClose respOf false) fun _ => WithClose respOf true

variable {respOf}

theorem StaysClosing.run {call : Throwing State Problem Unit} (stays : StaysClosing respOf call) {state : State}
    (closing : WithClose respOf true state) : WithClose respOf true (call.run state).1 := by
  have reached := Throwing.Triple.run stays state closing
  cases ran : call.run state with
  | mk after outcome =>
    rw [ran] at reached
    cases outcome <;> exact reached

theorem KeepsOpen.run_iff {call : Throwing State Problem Unit} (keeps : KeepsOpen respOf call) {state : State}
    (closing : WithClose respOf true state) :
    WithClose respOf false (call.run state).1 ↔ (call.run state).2 = .ok () := by
  have reached := Throwing.Triple.run keeps state closing
  cases ran : call.run state with
  | mk after outcome =>
    rw [ran] at reached
    cases outcome with
    | ok value => exact iff_of_true reached rfl
    | error problem =>
      have closed : (respOf after).closeConnection = true := reached
      apply iff_of_false
      · intro open_
        cases closed.symm.trans open_
      · nofun

/-- The frame of a handler with a session, on any state. -/
def framed (incoming : Incoming) (refuse : Throwing State Failure Unit) (work : Int32 → Throwing State Failure Unit)
    (caught : Bytes → Throwing State Failure Unit) : Throwing State Failure Unit :=
  Throwing.attempt
    (if incoming.isLoggedIn ≠ bytes "true" then refuse
    else do
      let userId ← Throwing.call (throwing (stoi incoming.userId))
      work userId)
    fun
    | .exception what => caught what
    | .undefined => Throwing.throw .undefined

variable {incoming : Incoming} {refuse : Throwing State Failure Unit} {work : Int32 → Throwing State Failure Unit}
  {caught : Bytes → Throwing State Failure Unit}

theorem framed_catch (failed : ∀ what, StaysClosing respOf (caught what)) {body : Throwing State Failure Unit}
    {state middle : State} {failure : Failure} (ran : body.run state = (middle, .error failure))
    (closing : WithClose respOf true middle) :
    WithClose respOf true ((Throwing.attempt body fun
      | .exception what => caught what
      | .undefined => Throwing.throw .undefined).run state).1 := by
  rw [Throwing.run_attempt_error ran]
  cases failure with
  | exception what => exact (failed what).run closing
  | undefined => exact closing

/-- The connection is kept exactly when the request has a user and the work for the user is done. -/
theorem framed_open_iff (refused : StaysClosing respOf refuse) (worked : ∀ userId, KeepsOpen respOf (work userId))
    (failed : ∀ what, StaysClosing respOf (caught what)) {state : State} (closing : WithClose respOf true state) :
    WithClose respOf false ((framed incoming refuse work caught).run state).1 ↔
      ∃ userId, incoming.user = some userId ∧ ((work userId).run state).2 = .ok () := by
  have both : ∀ {after : State}, WithClose respOf true after → ¬ WithClose respOf false after := by
    intro after closed open_
    cases Eq.trans (Eq.symm closed) open_
  unfold framed Incoming.user
  by_cases loggedIn : incoming.isLoggedIn = bytes "true"
  · simp only [loggedIn, ne_eq, not_true_eq_false, ↓reduceIte]
    cases stoi incoming.userId with
    | error what =>
      apply iff_of_false
      · exact both (framed_catch failed rfl closing)
      · rintro ⟨userId, none_, _⟩
        cases none_
    | ok userId =>
      have decides := (worked userId).run_iff closing
      have same : (Throwing.call (throwing (.ok userId)) >>= work).run state = (work userId).run state := rfl
      cases ran : (work userId).run state with
      | mk after outcome =>
        rw [ran] at decides
        cases outcome with
        | ok value =>
          rw [Throwing.run_attempt_ok (same.trans ran)]
          exact iff_of_true (decides.mpr rfl) ⟨userId, rfl, by rw [ran]⟩
        | error failure =>
          have reached := Throwing.Triple.run (worked userId) state closing
          rw [ran] at reached
          apply iff_of_false
          · exact both (framed_catch failed (same.trans ran) reached)
          · rintro ⟨other, found, done⟩
            cases found
            rw [ran] at done
            cases done
  · simp only [loggedIn, ne_eq, not_false_eq_true, ↓reduceIte]
    apply iff_of_false
    · cases ran : refuse.run state with
      | mk after outcome =>
        have reached := refused.run closing
        rw [ran] at reached
        cases outcome with
        | ok value =>
          rw [Throwing.run_attempt_ok ran]
          exact both reached
        | error failure => exact both (framed_catch failed ran reached)
    · rintro ⟨userId, none_, _⟩
      cases none_

end

/-! The answers of the handlers. -/

theorem respond_close {before : Exchange → Prop} {thrown : Bytes → Exchange → Prop} (version : Bytes)
    (statusCode : HttpStatusCode) (statusMessage : Bytes) (close : Bool) (body : Bytes) :
    Throwing.Triple before (respond version statusCode statusMessage close body)
      (fun _ => WithClose Exchange.resp close) thrown :=
  Throwing.triple_modify fun _ _ => rfl

theorem failWith_closing (json : JsonLibrary) (version what : Bytes) :
    StaysClosing Exchange.resp (failWith json version what) :=
  (Throwing.triple_call _).bind fun _ => respond_close ..

theorem getSession_close (manager : SessionManager) (clock : Readings) (draws : Fin 32 → Fin 16) (req : HttpRequest)
    (resp : HttpResponse) : (manager.getSession clock draws req resp).2.1.closeConnection = resp.closeConnection := by
  unfold SessionManager.getSession
  split <;> rfl

theorem getSession_closing (clock : Readings) (draws : Fin 32 → Fin 16) (req : HttpRequest)
    {thrown : Bytes → Exchange → Prop} :
    Throwing.Triple (WithClose Exchange.resp true) (getSession clock draws req) (fun _ => WithClose Exchange.resp true)
      thrown :=
  Throwing.triple_update fun _ closing => (getSession_close ..).trans closing

theorem onSessions_closing (change : SessionManager → SessionManager) {thrown : Bytes → Exchange → Prop} :
    Throwing.Triple (WithClose Exchange.resp true) (onSessions change) (fun _ => WithClose Exchange.resp true) thrown :=
  Throwing.triple_modify fun _ closing => closing

theorem onOnlineUsers_closing (change : Dict Int32 Bool → Dict Int32 Bool) {thrown : Bytes → Exchange → Prop} :
    Throwing.Triple (WithClose Exchange.resp true) (onOnlineUsers change) (fun _ => WithClose Exchange.resp true)
      thrown :=
  Throwing.triple_modify fun _ closing => closing

section

variable {json : JsonCodec} {incoming : Incoming} {visit : Visit}

def Prints (json : JsonCodec) (body : Json) : Prop := ∃ text, json.dump4 body = .ok text

theorem throwing_ok_iff {Value : Type} {outcome : Except Bytes Value} {value : Value} :
    throwing outcome = .ok value ↔ outcome = .ok value := by
  cases outcome <;> simp [throwing, Except.mapError]

theorem answerWith_close (version : Bytes) (statusCode : HttpStatusCode) (statusMessage : Bytes) (close : Bool)
    (body : Json) :
    Throwing.Triple (WithClose Visit.resp true) (answerWith json version statusCode statusMessage close body)
      (fun _ => WithClose Visit.resp close) fun _ => WithClose Visit.resp true :=
  (Throwing.triple_call _).bind fun _ => Throwing.triple_modify fun _ _ => rfl

theorem answerWith_ok_iff {version : Bytes} {statusCode : HttpStatusCode} {statusMessage : Bytes} {close : Bool}
    {body : Json} :
    ((answerWith json version statusCode statusMessage close body).run visit).2 = .ok () ↔ Prints json body := by
  unfold answerWith Prints
  simp only [Throwing.ok_call_bind, throwing_ok_iff]
  exact exists_congr fun text => and_iff_left rfl

theorem authorized_open_iff {handler : Int32 → Visiting Unit} (worked : ∀ userId, KeepsOpen Visit.resp (handler userId))
    (closing : WithClose Visit.resp true visit) :
    WithClose Visit.resp false ((authorized json incoming handler).run visit).1 ↔
      ∃ userId, incoming.user = some userId ∧ ((handler userId).run visit).2 = .ok () :=
  framed_open_iff (answerWith_close ..) worked (fun _ => answerWith_close ..) closing

theorem onMemory_closing (change : ChatMemory → ChatMemory) {thrown : Failure → Visit → Prop} :
    Throwing.Triple (WithClose Visit.resp true) (onMemory change) (fun _ => WithClose Visit.resp true) thrown :=
  Throwing.triple_modify fun _ closing => closing

end

end Chat
