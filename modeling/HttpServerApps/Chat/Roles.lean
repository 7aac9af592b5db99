import HttpServerApps.Chat.Restart

namespace Chat

open Common Sql

/-! The role of a message, and where the code takes it from. -/

def Message.isUser (message : Message) : Bool := message.origin = .added true

/-- Every message sits where its role says, and is shown and sent with it. -/
structure RolesTrue (messages : List Message) : Prop where
  index : ∀ (i : Nat) (message : Message), messages[i]? = some message → (i % 2 = 0 ↔ message.origin = .added true)
  shown : ChatHistoryHandler.historyArray messages = .array (messages.map fun message =>
    .object [(bytes "content", .string message.content), (bytes "is_user", .boolean message.isUser)])
  sent : ∀ (getenv : Getenv) (strategy : AIStrategy),
    requestMessages strategy.kind (strategy.buildRequest getenv messages) = some (.array (messages.map fun message =>
      .object [(bytes "content", .string message.content),
        (bytes "role", .string (if message.isUser then bytes "user" else bytes "assistant"))]))

theorem mapIdx_role {Shown : Type} {messages : List Message} (placed : Listing.InPlace Message.isUser isUserAt messages)
    (show_ : Bool → Bytes → Shown) :
    (messages.mapIdx fun i message => show_ (isUserAt i) message.content) =
      messages.map fun message => show_ message.isUser message.content := by
  apply List.ext_getElem?
  intro i
  rw [List.getElem?_mapIdx, List.getElem?_map]
  cases there : messages[i]? with
  | none => rfl
  | some message => rw [Option.map_some, Option.map_some, placed i message there]

theorem rolesTrue_iff {messages : List Message} :
    RolesTrue messages ↔ Listing.InPlace Message.isUser isUserAt messages := by
  apply Iff.intro
  · intro roles i message there
    unfold Message.isUser isUserAt
    exact decide_eq_decide.mpr (roles.index i message there).symm
  · intro placed
    apply RolesTrue.mk
    · intro i message there
      have same : decide (message.origin = .added true) = decide (i % 2 = 0) := placed i message there
      exact (decide_eq_decide.mp same).symm
    · unfold ChatHistoryHandler.historyArray
      rw [mapIdx_role placed fun isUser content => Json.object [(bytes "content", .string content),
        (bytes "is_user", .boolean isUser)]]
    · intro getenv strategy
      rw [buildRequest_messages]
      unfold messageArray roleAt
      rw [mapIdx_role placed fun isUser content => Json.object [(bytes "content", .string content),
        (bytes "role", .string (if isUser then bytes "user" else bytes "assistant"))]]

theorem isUserAt_succ (i : Nat) : isUserAt i ≠ isUserAt (i + 1) := by
  unfold isUserAt
  rcases Nat.mod_two_eq_zero_or_one i with even | odd
  · simp only [even, show (i + 1) % 2 = 1 by omega]
    decide
  · simp only [odd, show (i + 1) % 2 = 0 by omega]
    decide

/-! Calls on one helper, one after another. -/

structure Turn where
  userName : Bytes
  userQuestion : Bytes
  modelType : Bytes
  outside : Outside

section

variable (json : JsonCodec) (userId : Int32) (sessionId : Bytes)

def Turn.question (turn : Turn) : Question := ⟨userId, turn.userName, sessionId, turn.userQuestion, turn.modelType⟩

def Turn.effect (talk : Talk) (turn : Turn) : AIHelper.Effect :=
  AIHelper.effect json (turn.question userId sessionId) turn.outside talk.helper.messages

def turnStep (talk : Talk) (turn : Turn) : Option Talk :=
  match (AIHelper.chat json (turn.question userId sessionId) turn.outside).run talk with
  | (_, .error .undefined) => none
  | (next, _) => some next

def turns : System Talk Turn := ⟨turnStep json userId sessionId⟩

/-- The rows that the statements insert. -/
def tableRows (published : List ChatInsert) : List MessageRow := (published.map ChatInsert.sql).filterMap insertRow

/-- The roles are true, and stay so after a restart, in whatever order the statements are executed and the rows
    then listed. -/
structure RolesStay (talk : Talk) : Prop where
  here : RolesTrue talk.helper.messages
  restarted : ∀ (executed : List Bytes) (order : List MessageRow),
    executed.Perm (talk.published.map ChatInsert.sql) → Listing rowKey (executed.filterMap insertRow) order →
      RolesTrue ((restarted order).helper userId sessionId).messages

def MessageRow.isUser (row : MessageRow) : Bool := row.is_user ≠ 0

/-- The order of the query tells the rows apart, and an even number of rows comes before each of a user, an odd
    number before each other. -/
structure OrderTells (rows : List MessageRow) : Prop where
  apart : rows.Pairwise fun a b => rowKey a ≠ rowKey b
  ranked : ∀ row ∈ rows, row.isUser = isUserAt (Listing.rank rowKey rows row)

instance (rows : List MessageRow) : Decidable (OrderTells rows) :=
  decidable_of_iff ((rows.Pairwise fun a b => rowKey a ≠ rowKey b) ∧
    ∀ row ∈ rows, row.isUser = isUserAt (Listing.rank rowKey rows row)) ⟨fun both => ⟨both.1, both.2⟩, fun tells =>
      ⟨tells.apart, tells.ranked⟩⟩

/-- A question is added after an even number of messages; a prompt is left after an odd number. -/
def Fits (length : Nat) : AIHelper.Effect → Prop
  | .nothing => True
  | .promptLeft _ => length % 2 = 1
  | .questionOnly | .both _ => length % 2 = 0

instance (length : Nat) : DecidablePred (Fits length)
  | .nothing => isTrue trivial
  | .promptLeft _ => inferInstanceAs (Decidable (length % 2 = 1))
  | .questionOnly | .both _ => inferInstanceAs (Decidable (length % 2 = 0))

structure KeepsRoles (talk : Talk) (turn : Turn) : Prop where
  fits : Fits talk.helper.messages.length (turn.effect json userId sessionId talk)
  tells : OrderTells ((tableRows (talk.published ++ (turn.effect json userId sessionId talk).inserts
    (turn.question userId sessionId) turn.outside)).filter (inConversation userId sessionId))

instance (talk : Talk) (turn : Turn) : Decidable (KeepsRoles json userId sessionId talk turn) :=
  decidable_of_iff (Fits talk.helper.messages.length (turn.effect json userId sessionId talk) ∧
    OrderTells ((tableRows (talk.published ++ (turn.effect json userId sessionId talk).inserts
      (turn.question userId sessionId) turn.outside)).filter (inConversation userId sessionId)))
    ⟨fun both => ⟨both.1, both.2⟩, fun keeps => ⟨keeps.fits, keeps.tells⟩⟩

end

section

variable {json : JsonCodec} {userId : Int32} {sessionId : Bytes}

theorem turnStep_cases {talk next : Talk} {turn : Turn} (step : turnStep json userId sessionId talk turn = some next) :
    next.helper.messages = talk.helper.messages ++ (turn.effect json userId sessionId talk).messages
        (turn.question userId sessionId) turn.outside ∧
      next.published = talk.published ++ (turn.effect json userId sessionId talk).inserts
        (turn.question userId sessionId) turn.outside := by
  rcases @AIHelper.chat_leaves json (turn.question userId sessionId) turn.outside talk with ⟨strategy, outcome, run, _⟩
  unfold turnStep at step
  rw [run] at step
  split at step
  · cases step
  · rename_i same
    cases same
    cases step
    exact ⟨rfl, rfl⟩

theorem inPlace_messages (effect : AIHelper.Effect) (question : Question) (outside : Outside) (length : Nat) :
    Listing.InPlace Message.isUser (fun i => isUserAt (length + i)) (effect.messages question outside) ↔
      Fits length effect := by
  have first : ∀ message : Message, Listing.InPlace Message.isUser (fun i => isUserAt (length + i)) [message] ↔
      message.isUser = isUserAt length := by
    intro message
    apply Iff.intro
    · exact fun placed => placed 0 message rfl
    · intro same i other there
      rcases i with _ | i
      · cases there
        exact same
      · cases there
  cases effect with
  | nothing => exact iff_of_true nofun trivial
  | questionOnly =>
    refine (first _).trans ?_
    show true = isUserAt length ↔ length % 2 = 0
    unfold isUserAt
    exact eq_comm.trans decide_eq_true_iff
  | promptLeft prompt =>
    refine (first _).trans ?_
    show false = isUserAt length ↔ length % 2 = 1
    unfold isUserAt
    rw [eq_comm, decide_eq_false_iff_not]
    omega
  | both answer =>
    have second := isUserAt_succ length
    apply Iff.intro
    · intro placed
      have question : true = isUserAt length := placed 0 _ rfl
      have even : length % 2 = 0 := of_decide_eq_true question.symm
      exact even
    · intro even i message there
      have question : isUserAt length = true := decide_eq_true (show length % 2 = 0 from even)
      rw [question] at second
      rcases i with _ | _ | i
      · cases there
        exact question.symm
      · cases there
        exact (Bool.eq_false_iff.mpr second.symm).symm
      · cases there

theorem restarted_iff (published : List ChatInsert) :
    (∀ (executed : List Bytes) (order : List MessageRow), executed.Perm (published.map ChatInsert.sql) →
      Listing rowKey (executed.filterMap insertRow) order →
        RolesTrue ((restarted order).helper userId sessionId).messages) ↔
      OrderTells ((tableRows published).filter (inConversation userId sessionId)) := by
  have replay : ∀ order, RolesTrue ((restarted order).helper userId sessionId).messages ↔
      Listing.InPlace MessageRow.isUser isUserAt (order.filter (inConversation userId sessionId)) := by
    intro order
    have same : (fun row : MessageRow => row.message.isUser) = MessageRow.isUser := by
      funext row
      unfold Message.isUser MessageRow.message MessageRow.isUser
      simp
    rw [messages_restarted, rolesTrue_iff, Listing.inPlace_map, same]
  have orders := @Listing.inPlace_iff MessageRow _ _ rowKey
    ((tableRows published).filter (inConversation userId sessionId)) MessageRow.isUser isUserAt isUserAt_succ
  apply Iff.intro
  · intro every
    have both := orders.mp fun part listing => by
      rcases listing.of_part with ⟨order, whole, rfl⟩
      exact (replay order).mp (every _ order (List.Perm.refl _) whole)
    exact ⟨both.1, both.2⟩
  · intro tells executed order all listing
    apply (replay order).mpr
    have rows : (executed.filterMap insertRow).Perm (tableRows published) := all.filterMap insertRow
    exact orders.mpr ⟨tells.apart, tells.ranked⟩ _ ((listing.of_perm rows).filter _)

theorem rolesStay_step {talk next : Talk} {turn : Turn}
    (step : (turns json userId sessionId).step talk turn = some next) (stay : RolesStay userId sessionId talk) :
    RolesStay userId sessionId next ↔ KeepsRoles json userId sessionId talk turn := by
  rcases turnStep_cases step with ⟨messages, published⟩
  have here : RolesTrue next.helper.messages ↔
      Fits talk.helper.messages.length (turn.effect json userId sessionId talk) := by
    rw [rolesTrue_iff, messages, Listing.inPlace_append, inPlace_messages]
    exact and_iff_right (rolesTrue_iff.mp stay.here)
  have restart := @restarted_iff userId sessionId next.published
  rw [published] at restart
  apply Iff.intro
  · intro after
    exact ⟨here.mp after.here, restart.mp (by rw [← published]; exact after.restarted)⟩
  · intro keeps
    apply RolesStay.mk
    · exact here.mpr keeps.fits
    · rw [published]
      exact restart.mpr keeps.tells

theorem rolesStay_start : RolesStay userId sessionId {} := by
  apply RolesStay.mk
  · exact rolesTrue_iff.mpr nofun
  · exact restarted_iff [] |>.mpr ⟨List.Pairwise.nil, nofun⟩

end

/-- What a call without tools sends to the model is at the front of what it leaves. -/
theorem sent_in_call {json : JsonCodec} {userId : Int32} {sessionId : Bytes} {talk next : Talk} {turn : Turn}
    {strategy : AIStrategy} (step : (turns json userId sessionId).step talk turn = some next)
    (created : StrategyFactory.create turn.outside.getenv turn.modelType = .ok strategy)
    (plain : strategy.isMCPModel = false) (roles : RolesTrue next.helper.messages) :
    RolesTrue (talk.helper.messages ++ [⟨turn.userQuestion, turn.outside.questionMs, .added true⟩]) := by
  rcases turnStep_cases step with ⟨messages, _⟩
  have added : ∃ later,
      (turn.effect json userId sessionId talk).messages (turn.question userId sessionId) turn.outside =
        ⟨turn.userQuestion, turn.outside.questionMs, .added true⟩ :: later := by
    unfold Turn.effect AIHelper.effect
    rw [show (turn.question userId sessionId).modelType = turn.modelType from rfl, created]
    dsimp only
    rw [if_pos plain]
    split
    · exact ⟨[], rfl⟩
    · exact ⟨_, rfl⟩
  rcases added with ⟨later, added⟩
  rw [messages, added, List.append_cons] at roles
  exact rolesTrue_iff.mpr (Listing.inPlace_append.mp (rolesTrue_iff.mp roles)).1

/-- The roles are true in every state of a run, and after a restart from it, exactly when every call adds its
    question after an even number of messages, leaves no prompt after an even number, and gives the rows of the
    conversation times that tell. -/
theorem roles_stay_iff (json : JsonCodec) (userId : Int32) (sessionId : Bytes) {run : List Turn} {final : Talk}
    (ran : (turns json userId sessionId).run {} run = some final) :
    (turns json userId sessionId).Always (RolesStay userId sessionId) {} run ↔
      (turns json userId sessionId).Everywhere (KeepsRoles json userId sessionId) {} run :=
  @System.always_iff_everywhere _ _ _ (fun _ => True) _ _ (fun _ _ _ _ _ => trivial)
    (fun _ _ _ step _ => rolesStay_step step) _ _ _ trivial rolesStay_start ran

/-- A question to the model without tools. -/
def plainTurn (firstReply : Transfer) (questionMs answerMs : Int64) : Turn where
  userName := bytes "ada"
  userQuestion := bytes "hi"
  modelType := bytes "1"
  outside := keyed firstReply questionMs answerMs

def answered (questionMs : Int64) : Turn := plainTurn (.received (bytes "r")) questionMs (questionMs + 1)

theorem two_turns_keep :
    (turns helloJson 7 (bytes "5")).Always (RolesStay 7 (bytes "5")) {} [answered 1, answered 3] := by
  have runs : ((turns helloJson 7 (bytes "5")).run {} [answered 1, answered 3]).isSome = true := by decide
  rcases Option.isSome_iff_exists.mp runs with ⟨final, ran⟩
  apply (roles_stay_iff helloJson 7 (bytes "5") ran).mpr
  apply System.everywhere_cons
  · decide +kernel
  · intro middle first
    apply System.everywhere_cons
    · have keeps : ((turns helloJson 7 (bytes "5")).step {} (answered 1)).all
          (fun middle => KeepsRoles helloJson 7 (bytes "5") middle (answered 3)) = true := by decide +kernel
      rw [first] at keeps
      exact of_decide_eq_true keeps
    · exact fun last _ => System.everywhere_nil last

/-- After a call that fails at the model, the next question sits where an answer belongs. -/
theorem failed_turn_flips :
    ¬ ∀ (json : JsonCodec) (userId : Int32) (sessionId : Bytes) (run : List Turn) (final : Talk),
      (turns json userId sessionId).run {} run = some final → RolesStay userId sessionId final := by
  intro every
  have seen : ((turns helloJson 7 (bytes "5")).run {}
      [plainTurn (.failed (bytes "Timeout was reached")) 1 2, answered 3]).map (fun talk => talk.helper.messages[1]?) =
        some (some ⟨bytes "hi", 3, .added true⟩) := by decide
  rcases Option.map_eq_some_iff.mp seen with ⟨final, ran, second⟩
  have placed := ((every _ _ _ _ final ran).here.index 1 _ second).mpr rfl
  exact absurd placed (by decide)

end Chat
