import HttpServerApps.Amqp.Inbox

namespace AmqpClient

open Common ChannelImpl

/-- The methods a broker answers a request with, if any; a message is not published as mandatory or immediate. -/
def Request.answers : Request → Method → Bool
  | .channelOpen => isOpenOk
  | .confirmSelect => isConfirmOk
  | .queueDeclare .. => isDeclareOk
  | .basicQos .. => isQosOk
  | .basicConsume .. => isConsumeOk
  | .basicCancel _ => isCancelOk
  | .basicPublish .. => fun method => isPublishAck method && !isReturn method
  | .channelCloseOk | .connectionCloseOk | .basicAck _ => fun _ => false
where
  isReturn : Method → Bool
    | .basicReturn _ => true
    | _ => false

/-- The requests that remain when the first is answered. -/
def answered (channel : ChannelId) : Arrival → List Request → Option (List Request)
  | .frame ⟨on, .method method⟩ _, request :: later =>
    if on = channel ∧ request.answers method = true then some later else none
  | _, _ => none

/-- The requests on a channel are answered one after the other, and all else that comes is ordinary. -/
def replies (channel : ChannelId) : List Request → List Arrival → Bool
  | _, [] => true
  | requests, arrival :: arrivals =>
    if arrival.ordinary then replies channel requests arrivals
    else (answered channel arrival requests).any fun later => replies channel later arrivals

section

variable {channel : ChannelId} {requests : List Request} {arrivals : List Arrival}

theorem replies_ordinary {passed : List Arrival} (plain : ∀ arrival ∈ passed, arrival.ordinary = true) :
    replies channel requests (passed ++ arrivals) = replies channel requests arrivals := by
  induction passed with
  | nil => rfl
  | cons arrival passed ih =>
    rw [List.cons_append, replies, if_pos (plain arrival (List.mem_cons_self ..))]
    exact ih fun other member => plain other (List.mem_cons_of_mem _ member)

/-- What is not ordinary answers the first of the requests. -/
theorem replies_first {arrival : Arrival} (met : replies channel requests (arrival :: arrivals) = true)
    (extra : arrival.ordinary = false) :
    ∃ method late request later, arrival = .frame ⟨channel, .method method⟩ late ∧ requests = request :: later ∧
      request.answers method = true ∧ replies channel later arrivals = true := by
  rw [replies, if_neg (by simp [extra])] at met
  rcases (Option.any_eq_true _ _).mp met with ⟨left, answers, rest⟩
  unfold answered at answers
  split at answers
  · rename_i on method late request later
    split at answers
    · rename_i fits
      cases answers
      rcases fits with ⟨rfl, fits⟩
      exact ⟨method, late, request, left, rfl, rfl, fits, rest⟩
    · cases answers
  · cases answers

theorem replies_lawful (met : replies channel requests arrivals = true) :
    ∀ arrival ∈ arrivals, arrival.Lawful channel := by
  induction arrivals generalizing requests with
  | nil => simp
  | cons arrival arrivals ih =>
    intro other member
    cases ordinary : arrival.ordinary with
    | true =>
      rw [replies, if_pos ordinary] at met
      rcases List.mem_cons.mp member with rfl | inside
      · exact Or.inl ordinary
      · exact ih met other inside
    | false =>
      rcases replies_first met ordinary with ⟨method, late, request, later, rfl, _, _, rest⟩
      rcases List.mem_cons.mp member with rfl | inside
      · exact Or.inr ⟨_, _, rfl, rfl⟩
      · exact ih rest other inside

theorem replies_nil : replies channel [] arrivals = true ↔ ∀ arrival ∈ arrivals, arrival.ordinary = true := by
  apply Iff.intro
  · intro met
    induction arrivals with
    | nil => simp
    | cons arrival arrivals ih =>
      cases ordinary : arrival.ordinary with
      | true =>
        rw [replies, if_pos ordinary] at met
        exact List.forall_mem_cons.mpr ⟨ordinary, ih met⟩
      | false =>
        rcases replies_first met ordinary with ⟨_, _, _, _, _, none_, _⟩
        cases none_
  · intro plain
    have all := @replies_ordinary channel [] [] arrivals plain
    rwa [List.append_nil] at all

end

/-- In the middle of a call for a channel, of whose requests so many are still to be answered. -/
structure Pending (books : Books) (channel : ChannelId) (requests : List Request) (impl : ChannelImpl) : Prop where
  content : ∀ frame ∈ impl.frameQueue, frame.isContent = true
  replies : replies channel requests impl.incoming = true
  standing : impl.standing = books.standing
  balanced : ∀ other, (books.account other).Balanced other impl

theorem Pending.orderly {books : Books} {channel : ChannelId} {requests : List Request} {impl : ChannelImpl}
    (pending : Pending books channel requests impl) : Orderly books channel impl where
  content := pending.content
  lawful := replies_lawful pending.replies
  standing := pending.standing
  others other _ := pending.balanced other

/-- A frame of the channel that was looked for: an answer, or content that goes to the queue. -/
theorem Passes.pending {books : Books} {channel : ChannelId} {requests : List Request} {before after : ChannelImpl}
    {frame : Frame} {late : Bool} (numbered : channel ≠ 0) (own : frame.channel = channel)
    (passes : Passes books channel before [.frame frame late] after) (pending : Pending books channel requests before) :
    (∃ method request later, frame = ⟨channel, .method method⟩ ∧ requests = request :: later ∧
      request.answers method = true ∧ Pending books channel later after) ∨
      frame.isContent = true ∧
        Pending books channel requests { after with frameQueue := after.frameQueue ++ [frame] } := by
  have stock := passes.stock
  rcases passes.incoming with ⟨passed, shape, none_⟩
  have plain : ∀ arrival ∈ passed, arrival.ordinary = true := by
    intro arrival member
    have inside : arrival ∈ before.incoming := by
      rw [shape]
      exact List.mem_append_left _ member
    rcases replies_lawful pending.replies arrival inside with ordinary | ⟨seen, _, same, there⟩
    · exact ordinary
    · exact absurd there (none_ arrival member seen _ same)
  have left := pending.replies
  rw [shape, replies_ordinary plain, List.singleton_append] at left
  rcases pending.balanced channel with ⟨done, rest, sent, stands⟩
  cases ordinary : (Arrival.frame frame late).ordinary with
  | false =>
    rcases replies_first left ordinary with ⟨method, _, request, later, same, asked, answers, replied⟩
    cases same
    refine Or.inl ⟨method, request, later, rfl, asked, answers, passes.orderly.content, replied,
      passes.orderly.standing, ?_⟩
    have empty : contentOf [.frame ⟨channel, .method method⟩ late] = [] := by
      simpa [Arrival.ordinary, numbered, contentOf, Arrival.content] using ordinary
    intro other
    by_cases same : other = channel
    · rw [same]
      refine ⟨done, rest, sent, stands.same ?_ passes.delivered⟩
      rw [stock, empty, stock_eq, passes.queue]
      simp [framesOn]
    · exact passes.orderly.others other same
  | true =>
    have content : frame.isContent = true := by
      unfold Arrival.ordinary at ordinary
      dsimp only at ordinary
      rwa [own, if_neg numbered] at ordinary
    rw [replies, if_pos ordinary] at left
    refine Or.inr ⟨content, ?_, left, passes.orderly.standing, ?_⟩
    · intro other member
      rcases List.mem_append.mp member with queued | here
      · exact passes.orderly.content other queued
      · cases List.mem_singleton.mp here
        exact content
    · intro other
      by_cases same : other = channel
      · rw [same]
        refine ⟨done, rest, sent, stands.same ?_ passes.delivered⟩
        rw [stock, contentOf_frame content, stock_eq, framesOn_append, passes.queue]
      · refine (passes.orderly.others other same).same ?_ rfl
        rw [stock_eq, stock_eq, framesOn_append,
          @framesOn_none other [frame] (by simpa [own] using fun there => same there.symm), List.append_nil]

namespace ChannelImpl

variable {books : Books} {channel : ChannelId} {request : Request} {requests : List Request}
  {consume : ChannelId → Calling (Option Envelope)} {expected : Method → Bool} {impl : ChannelImpl}

def Replied (books : Books) (channel : ChannelId) (request : Request) (requests : List Request)
    (found : Option Frame) (after : ChannelImpl) : Prop :=
  ∃ method, found = some ⟨channel, .method method⟩ ∧ request.answers method = true ∧
    Pending books channel requests after

theorem isExpected_content (none_ : ∀ deliver, expected (.basicDeliver deliver) = false) {frame : Frame}
    (content : frame.isContent = true) : frame.isExpectedMethodOnChannel [channel] expected = false := by
  unfold Frame.isContent at content
  unfold Frame.isExpectedMethodOnChannel
  split at content <;> simp_all

/-- By induction on the fuel: content of the channel that comes before the answer is put by. -/
theorem methodLoop_replied (takes : Takes consume) (numbered : channel ≠ 0)
    (met : ∀ method, request.answers method = true → expected method = true)
    (none_ : ∀ deliver, expected (.basicDeliver deliver) = false) {fuel : Nat}
    (pending : Pending books channel (request :: requests) impl) (enough : impl.incoming.length < fuel) :
    Throwing.Ends (Replied books channel request requests) (fun problem _ => problem = .waiting)
      ((methodLoop consume [channel] expected false fuel).run impl) := by
  induction fuel generalizing impl with
  | zero => exact absurd enough (Nat.not_lt_zero _)
  | succ fuel ih =>
    rw [methodLoop]
    have looks : Throwing.Ends (Looked books channel false impl) (fun problem _ => problem = .waiting)
        ((getNextFrameFromBrokerOnChannel consume [channel] false).run impl) :=
      (getNextFrameFromBrokerOnChannel_looked takes pending.orderly).imp (fun _ _ looked => looked)
        fun _ _ waits => waits.1
    apply looks.bind
    intro found after looked
    cases found with
    | none => cases looked.1.1
    | some seen =>
      rcases seen with ⟨frame, late⟩
      dsimp only
      rcases looked.2.pending numbered looked.1 pending with
        ⟨method, _, _, rfl, same, answers, next⟩ | ⟨content, next⟩
      · cases same
        have here : Frame.isExpectedMethodOnChannel [channel] expected ⟨channel, .method method⟩ = true := by
          simp [Frame.isExpectedMethodOnChannel, met method answers]
        rw [if_pos here]
        exact ⟨method, rfl, answers, next⟩
      · rw [if_neg (by simp [isExpected_content none_ content])]
        have shorter : after.incoming.length < fuel := by
          rcases looked.2.incoming with ⟨passed, shape, _⟩
          rw [shape] at enough
          simp only [List.length_append, List.length_cons, List.length_nil] at enough
          omega
        split
        · rename_i close closes
          unfold Frame.isContent at content
          rw [closes] at content
          cases content
        · rw [Throwing.run_modify_bind, if_neg (by simp)]
          exact ih next shorter

theorem awaitMethod_replied (numbered : channel ≠ 0)
    (met : ∀ method, request.answers method = true → expected method = true)
    (none_ : ∀ deliver, expected (.basicDeliver deliver) = false)
    (pending : Pending books channel (request :: requests) impl) :
    Throwing.Ends (Replied books channel request requests) (fun problem _ => problem = .waiting)
      ((awaitMethod channel expected).run impl) := by
  have unqueued : impl.frameQueue.find? (Frame.isExpectedMethodOnChannel [channel] expected) = none := by
    apply List.find?_eq_none.mpr
    intro frame member
    rw [isExpected_content none_ (pending.content frame member)]
    exact Bool.false_ne_true
  unfold awaitMethod getMethodOnChannel
  rw [Throwing.run_read_bind, Throwing.run_read_bind, unqueued]
  dsimp only
  rw [Throwing.run_read_bind]
  exact methodLoop_replied (takes_inner _) numbered met none_ pending (Nat.lt_succ_self _)

end ChannelImpl

end AmqpClient
