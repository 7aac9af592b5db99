import HttpServerApps.Chat.Restart
import HttpServerApps.Chat.SessionList

namespace Chat

open Common Http ChatMemory

/-! The number in an id, as a number. -/

/-- A reading of the clock with what `std::rand` returns, which is not negative. -/
structure Draw where
  now : Int64
  rand : Int32
  natural : 0 ≤ rand.toInt

namespace Draw

/-- The clock counts blocks of 131072 ticks, the least power of two above every `randVal`. -/
def block (draw : Draw) : Int := draw.now.toInt / 2 ^ 17

def place (draw : Draw) : Nat := (draw.now.toInt % 2 ^ 17).toNat

def randVal (draw : Draw) : Nat := (draw.rand.toInt % 100000).toNat

def number (draw : Draw) : Int := 2 ^ 17 * draw.block + (draw.place ^^^ draw.randVal : Nat)

/-- The two readings are in one block and differ exactly in the bits in which the random values do. -/
def Collides (first second : Draw) : Prop :=
  first.block = second.block ∧ first.place ^^^ second.place = first.randVal ^^^ second.randVal

def sessionId (draw : Draw) : Bytes := AISessionIdGenerator.generate draw.now draw.rand

theorem place_lt (draw : Draw) : draw.place < 2 ^ 17 := by
  unfold place
  omega

theorem randVal_lt (draw : Draw) : draw.randVal < 2 ^ 17 := by
  unfold randVal
  omega

theorem randVal_toInt (draw : Draw) : (draw.rand % 100000).toInt64.toInt = draw.randVal := by
  have natural := draw.natural
  have modulus : (100000 : Int32).toInt = 100000 := by decide
  rw [Int32.toInt_toInt64, Int32.toInt_mod, modulus, Int.tmod_eq_emod_of_nonneg natural]
  unfold randVal
  omega

theorem toInt_bits (value : Int64) :
    value.toInt = if 2 * value.toBitVec.toNat < 2 ^ 64 then (value.toBitVec.toNat : Int)
      else value.toBitVec.toNat - 2 ^ 64 := BitVec.toInt_eq_toNat_cond value.toBitVec

/-- A random value below a block changes the place in it only. -/
theorem toInt_xor (now low : Int64) {value : Nat} (small : value < 2 ^ 17) (same : low.toInt = value) :
    (now ^^^ low).toInt = 2 ^ 17 * (now.toInt / 2 ^ 17) + ((now.toInt % 2 ^ 17).toNat ^^^ value : Nat) := by
  have clock := toInt_bits now
  have mixed := toInt_bits (now ^^^ low)
  have lowBits := toInt_bits low
  have clockBound := now.toBitVec.isLt
  have lowBound := low.toBitVec.isLt
  have random : low.toBitVec.toNat = value := by omega
  rw [Int64.toBitVec_xor, BitVec.toNat_xor, random] at mixed
  generalize now.toBitVec.toNat = ticks at clock mixed clockBound
  have high : (ticks ^^^ value) / 2 ^ 17 = ticks / 2 ^ 17 := by
    rw [Nat.xor_div_two_pow, Nat.div_eq_of_lt small, Nat.xor_zero]
  have rest : (ticks ^^^ value) % 2 ^ 17 = ticks % 2 ^ 17 ^^^ value := by
    rw [Nat.xor_mod_two_pow, Nat.mod_eq_of_lt small]
  have place : (now.toInt % 2 ^ 17).toNat = ticks % 2 ^ 17 := by
    rw [clock]
    split <;> omega
  rw [place, ← rest, mixed, clock]
  generalize ticks ^^^ value = bits at high
  split <;> split <;> omega

theorem sessionId_eq (draw : Draw) : draw.sessionId = intText draw.number := by
  unfold sessionId AISessionIdGenerator.generate number
  dsimp only
  rw [toInt_xor draw.now _ draw.randVal_lt draw.randVal_toInt]
  rfl

theorem xor_cross (a b c d : Nat) : a ^^^ c = b ^^^ d ↔ a ^^^ b = c ^^^ d := by
  have crossed : ∀ a b c d : Nat, a ^^^ c = b ^^^ d → a ^^^ b = c ^^^ d := by
    intro a b c d same
    calc
      a ^^^ b = (a ^^^ c) ^^^ (c ^^^ b) := by
        rw [Nat.xor_assoc, ← Nat.xor_assoc c c b, Nat.xor_self, Nat.zero_xor]
      _ = (b ^^^ b) ^^^ (c ^^^ d) := by
        rw [same]
        ac_rfl
      _ = c ^^^ d := by rw [Nat.xor_self, Nat.zero_xor]
  exact ⟨crossed a b c d, crossed a c b d⟩

theorem number_eq_iff (first second : Draw) : first.number = second.number ↔ first.Collides second := by
  have firstBound := Nat.xor_lt_two_pow first.place_lt first.randVal_lt
  have secondBound := Nat.xor_lt_two_pow second.place_lt second.randVal_lt
  have places := xor_cross first.place second.place first.randVal second.randVal
  unfold number Collides
  rw [← places]
  apply Iff.intro
  · intro same
    apply And.intro <;> omega
  · rintro ⟨block, place⟩
    rw [block, place]

theorem sessionIds_nodup_iff (draws : List Draw) :
    (draws.map sessionId).Nodup ↔ draws.Pairwise fun first second => ¬ first.Collides second := by
  unfold List.Nodup
  rw [List.pairwise_map]
  have differ : ∀ first second : Draw, first.sessionId ≠ second.sessionId ↔ ¬ first.Collides second := by
    intro first second
    rw [sessionId_eq, sessionId_eq, ← number_eq_iff]
    exact not_congr intText_injective.eq_iff
  simp only [differ]

end Draw

/-! The conversations that requests come to. -/

/-- The user and the draw of a new-session request that comes to the generator. -/
def asksNew (json : JsonCodec) : ChatRequest → Option (Int32 × Int64 × Int32)
  | .sendNewSession incoming now rand _ =>
    match incoming.user, ChatCreateAndSendHandler.readFields json incoming.req.content with
    | some userId, .ok _ => some (userId, now, rand)
    | _, _ => none
  | _ => none

/-- The user and the conversation of a request that names one itself. -/
def asksKnown (json : JsonCodec) : ChatRequest → Option (Int32 × Bytes)
  | .send incoming _ =>
    match incoming.user, ChatSendHandler.readFields json incoming.req.content with
    | some userId, .ok fields => some (userId, fields.sessionId)
    | _, _ => none
  | .history incoming =>
    match incoming.user, ChatHistoryHandler.readSessionId json incoming.req.content with
    | some userId, .ok sessionId => some (userId, sessionId)
    | _, _ => none
  | _ => none

/-- The request starts a conversation that its user did not have. -/
structure StartsNew (json : JsonCodec) (memory : ChatMemory) (request : ChatRequest) (userId : Int32)
    (sessionId : Bytes) : Prop where
  absent : ¬ memory.Has userId sessionId
  empty : ((memory.enterListed userId sessionId).helper userId sessionId).messages = []
  listed : (request.serve json memory).1.memory.sessionIds userId = memory.sessionIds userId ++ [sessionId]

/-- Every new-session request that comes to the generator starts a new conversation. -/
def CreatesNew (json : JsonCodec) (memory : ChatMemory) (request : ChatRequest) : Prop :=
  ∀ userId now rand, asksNew json request = some (userId, now, rand) →
    StartsNew json memory request userId (AISessionIdGenerator.generate now rand)

/-- The request enters the conversation that the draw leads to. -/
def Uses (json : JsonCodec) (userId : Int32) (draw : Draw) (request : ChatRequest) : Prop :=
  (∃ other : Draw, asksNew json request = some (userId, other.now, other.rand) ∧ other.Collides draw) ∨
    asksKnown json request = some (userId, intText draw.number)

/-- `std::rand` returns no negative value. -/
def Natural : ChatRequest → Prop
  | .sendNewSession _ _ rand _ => 0 ≤ rand.toInt
  | _ => True

section

variable {json : JsonCodec} {memory : ChatMemory} {userId : Int32} {sessionId : Bytes}

theorem asksNew_some {request : ChatRequest} {now : Int64} {rand : Int32}
    (asks : asksNew json request = some (userId, now, rand)) :
    ∃ incoming outside fields, request = .sendNewSession incoming now rand outside ∧ incoming.user = some userId ∧
      ChatCreateAndSendHandler.readFields json incoming.req.content = .ok fields := by
  cases request with
  | sendNewSession incoming first second outside =>
    dsimp only [asksNew] at asks
    split at asks
    · rename_i asking fields user read
      cases asks
      exact ⟨incoming, outside, fields, rfl, user, read⟩
    · cases asks
  | send incoming outside => cases asks
  | history incoming => cases asks
  | sessions incoming => cases asks

theorem sessionIds_enterListed (absent : ¬ memory.Has userId sessionId) :
    (memory.enterListed userId sessionId).sessionIds userId = memory.sessionIds userId ++ [sessionId] := by
  unfold enterListed
  rw [if_pos (not_not.mp absent), sessionIds_putSessionIds, if_pos rfl]

/-- The conversation that a request comes to. -/
def named (json : JsonCodec) (request : ChatRequest) : Option (Int32 × Bytes) :=
  (asksNew json request).map (fun (userId, now, rand) => (userId, AISessionIdGenerator.generate now rand)) <|>
    asksKnown json request

/-- A request makes the conversation it comes to, and no other. -/
theorem has_after (request : ChatRequest) (other : Int32) (key : Bytes) :
    (request.after json memory).Has other key ↔ named json request = some (other, key) ∨ memory.Has other key := by
  unfold ChatRequest.after ChatRequest.user named asksNew asksKnown
  cases request with
  | send incoming outside =>
    dsimp only [ChatRequest.incoming]
    cases incoming.user with
    | none => simp
    | some userId =>
      cases ChatSendHandler.readFields json incoming.req.content with
      | error failure => simp
      | ok fields =>
        dsimp only
        rw [has_afterChat has_enter, has_enter_iff]
        simp [eq_comm]
  | sendNewSession incoming now rand outside =>
    dsimp only [ChatRequest.incoming]
    cases incoming.user with
    | none => simp
    | some userId =>
      cases ChatCreateAndSendHandler.readFields json incoming.req.content with
      | error failure => simp
      | ok fields =>
        dsimp only
        rw [has_afterChat has_enterListed, has_enterListed_iff]
        simp [eq_comm]
  | history incoming =>
    dsimp only [ChatRequest.incoming]
    cases incoming.user with
    | none => simp
    | some userId =>
      cases ChatHistoryHandler.readSessionId json incoming.req.content with
      | error failure => simp
      | ok sessionId =>
        dsimp only
        rw [has_enter_iff]
        simp [eq_comm]
  | sessions incoming =>
    dsimp only [ChatRequest.incoming]
    cases incoming.user with
    | none => simp
    | some userId => simp [ChatMemory.Has]

theorem startsNew_iff {request : ChatRequest} {now : Int64} {rand : Int32}
    (asks : asksNew json request = some (userId, now, rand)) :
    StartsNew json memory request userId (AISessionIdGenerator.generate now rand) ↔
      ¬ memory.Has userId (AISessionIdGenerator.generate now rand) := by
  apply Iff.intro
  · exact fun starts => starts.absent
  · intro absent
    refine ⟨absent, ?_, ?_⟩
    · rw [helper_enterListed]
      unfold ChatMemory.helper
      rw [not_not.mp absent]
      rfl
    · rcases asksNew_some asks with ⟨incoming, outside, fields, rfl, user, read⟩
      rw [serve_memory]
      unfold ChatRequest.after ChatRequest.user
      dsimp only [ChatRequest.incoming]
      rw [user]
      dsimp only
      rw [read]
      exact sessionIds_enterListed absent

end

/-- The conversations of a state are those of the start and those that the requests since came to. -/
theorem has_run {json : JsonCodec} {start final : ChatMemory} {requests : List ChatRequest}
    (run : (chats json).run start requests = some final) (userId : Int32) (sessionId : Bytes) :
    final.Has userId sessionId ↔
      start.Has userId sessionId ∨ ∃ earlier ∈ requests, named json earlier = some (userId, sessionId) := by
  induction requests generalizing start with
  | nil =>
    cases run
    simp
  | cons request requests ih =>
    rcases Option.bind_eq_some_iff.mp run with ⟨next, step, later⟩
    have here := chatStep_after step
    rw [ih later, here, has_after]
    simp only [List.mem_cons, exists_eq_or_imp]
    rw [@or_comm (named json request = _), or_assoc]

theorem natural_of_asksNew {json : JsonCodec} {request : ChatRequest} (natural : Natural request) {userId : Int32}
    {now : Int64} {rand : Int32} (asks : asksNew json request = some (userId, now, rand)) : 0 ≤ rand.toInt := by
  rcases asksNew_some asks with ⟨incoming, outside, fields, rfl, _, _⟩
  exact natural

theorem uses_iff {json : JsonCodec} {request : ChatRequest} (natural : Natural request) (userId : Int32) (draw : Draw) :
    Uses json userId draw request ↔ named json request = some (userId, intText draw.number) := by
  unfold Uses named
  cases asks : asksNew json request with
  | none => simp
  | some asked =>
    rcases asked with ⟨asking, now, rand⟩
    have nonneg := natural_of_asksNew natural asks
    have drawn := Draw.sessionId_eq ⟨now, rand, nonneg⟩
    have same := Draw.number_eq_iff ⟨now, rand, nonneg⟩ draw
    change AISessionIdGenerator.generate now rand = _ at drawn
    have known : asksKnown json request = none := by
      rcases asksNew_some asks with ⟨incoming, outside, fields, rfl, _, _⟩
      rfl
    rw [known]
    change _ ↔ some (asking, AISessionIdGenerator.generate now rand) = some (userId, intText draw.number)
    rw [drawn, Option.some.injEq, Prod.mk.injEq, intText_injective.eq_iff, same]
    apply Iff.intro
    · rintro (⟨other, asked, collides⟩ | none_)
      · cases asked
        exact ⟨rfl, collides⟩
      · cases none_
    · rintro ⟨rfl, collides⟩
      exact Or.inl ⟨⟨now, rand, nonneg⟩, rfl, collides⟩

/-- Ids repeat exactly where two draws collide, and a new-session request starts a new conversation exactly where
    nothing before it came to the conversation its draw leads to. -/
theorem new_conversations_iff (draws : List Draw) (json : JsonCodec) (start : ChatMemory) (requests : List ChatRequest) :
    ((draws.map Draw.sessionId).Nodup ↔ draws.Pairwise fun first second => ¬ first.Collides second) ∧
    ((∀ request ∈ requests, Natural request) →
      ((chats json).Everywhere (CreatesNew json) start requests ↔
        ∀ before request after, requests = before ++ request :: after → ((chats json).run start before).isSome →
          ∀ userId, ∀ draw : Draw, asksNew json request = some (userId, draw.now, draw.rand) →
            ¬ start.Has userId (intText draw.number) ∧ ∀ earlier ∈ before, ¬ Uses json userId draw earlier)) := by
  refine ⟨Draw.sessionIds_nodup_iff draws, ?_⟩
  intro natural
  have unused : ∀ before request after state, requests = before ++ request :: after →
      (chats json).run start before = some state → ∀ userId, ∀ draw : Draw,
        asksNew json request = some (userId, draw.now, draw.rand) →
        (StartsNew json state request userId (AISessionIdGenerator.generate draw.now draw.rand) ↔
          ¬ start.Has userId (intText draw.number) ∧ ∀ earlier ∈ before, ¬ Uses json userId draw earlier) := by
    intro before request after state shape run userId draw asks
    have drawn := draw.sessionId_eq
    change AISessionIdGenerator.generate draw.now draw.rand = _ at drawn
    rw [startsNew_iff asks, drawn, has_run run]
    have uses : ∀ earlier ∈ before, (Uses json userId draw earlier ↔
        named json earlier = some (userId, intText draw.number)) := by
      intro earlier member
      apply uses_iff
      apply natural
      rw [shape]
      exact List.mem_append_left _ member
    simp only [not_or, not_exists, not_and]
    exact and_congr_right' (forall₂_congr fun earlier member => not_congr (uses earlier member).symm)
  apply Iff.intro
  · intro creates before request after shape runs userId draw asks
    rcases Option.isSome_iff_exists.mp runs with ⟨state, run⟩
    exact (unused before request after state shape run userId draw asks).mp
      (creates before request after state shape run userId draw.now draw.rand asks)
  · intro fresh before request after state shape run userId now rand asks
    have member : request ∈ requests := by
      rw [shape]
      simp
    have nonneg := natural_of_asksNew (natural request member) asks
    have runs : ((chats json).run start before).isSome = true := by rw [run]; rfl
    exact (unused before request after state shape run userId ⟨now, rand, nonneg⟩ asks).mpr
      (fresh before request after shape runs userId ⟨now, rand, nonneg⟩ asks)

/-- Two readings of the clock a block apart. -/
def separateBlocks : List Draw :=
  [⟨1700000000000000000, 0, by decide⟩, ⟨1700000000000131072, 131071, by decide⟩]

def firstConversation : ChatRequest := .sendNewSession (requestOf (bytes "7") []) 1700000000000000000 0 keyless

theorem separateBlocks_new :
    (separateBlocks.map Draw.sessionId).Nodup ∧
      (chats (knownTexts [])).Everywhere (CreatesNew (knownTexts [])) {} [firstConversation] := by
  have new := new_conversations_iff separateBlocks (knownTexts []) {} [firstConversation]
  have natural : ∀ request ∈ [firstConversation], Natural request := by
    intro request member
    rw [List.mem_singleton.mp member]
    exact Int.le_refl 0
  have blocks : separateBlocks.Pairwise fun first second => first.block ≠ second.block := by decide
  refine ⟨new.1.mpr (blocks.imp fun differ collides => differ collides.1), (new.2 natural).mpr ?_⟩
  intro before request after shape _ userId draw _
  have first : before = [] := by
    rcases List.append_eq_cons_iff.mp shape.symm with ⟨none_, _⟩ | ⟨rest, _, nothing⟩
    · exact none_
    · cases (List.append_eq_nil_iff.mp nothing.symm).2
  subst first
  constructor
  · exact fun has => has rfl
  · intro earlier member
    cases member

/-- The next tick of the clock, and the random values 0 and 1. -/
theorem consecutive_ticks_collide :
    ¬ ∀ draws : List Draw, draws.Pairwise (fun first second => first.now < second.now) →
      (draws.map Draw.sessionId).Nodup := by
  intro distinct
  have later : (1700000000000000000 : Int64) < 1700000000000000001 := by decide
  have nodup := distinct [⟨1700000000000000000, 0, by decide⟩, ⟨1700000000000000001, 1, by decide⟩]
    (List.pairwise_pair.mpr later)
  revert nodup
  decide

end Chat
