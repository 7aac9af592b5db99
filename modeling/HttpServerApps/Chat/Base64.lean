import Mathlib.Data.List.Basic
import HttpServerApps.Chat.Upload

namespace Chat

open Common

/-! The encoder. -/

def base64Chars (url : Bool) : Bytes :=
  bytes "ABCDEFGHIJKLMNOPQRSTUVWXYZabcdefghijklmnopqrstuvwxyz0123456789" ++ if url then bytes "-_" else bytes "+/"

def base64Char (url : Bool) (index : Nat) : UInt8 := (base64Chars url).getD index 0

def trailingChar (url : Bool) : UInt8 := if url then 46 else 61

/-- The four characters of one round, of which the second and the third byte may be missing. -/
def encodeChunk (url : Bool) (b0 : UInt8) (b1 b2 : Option UInt8) : Bytes :=
  let c0 := base64Char url ((b0.toNat &&& 0xfc) >>> 2)
  match b1 with
  | none => [c0, base64Char url ((b0.toNat &&& 0x03) <<< 4), trailingChar url, trailingChar url]
  | some b1 =>
    let c1 := base64Char url (((b0.toNat &&& 0x03) <<< 4) + ((b1.toNat &&& 0xf0) >>> 4))
    match b2 with
    | none => [c0, c1, base64Char url ((b1.toNat &&& 0x0f) <<< 2), trailingChar url]
    | some b2 =>
      [c0, c1, base64Char url (((b1.toNat &&& 0x0f) <<< 2) + ((b2.toNat &&& 0xc0) >>> 6)),
        base64Char url (b2.toNat &&& 0x3f)]

/-- The loop, whose `pos` is an `unsigned int` beside a `size_t`; `none` where the rounds given do not end it. -/
def encodeLoop (bytesToEncode : Bytes) (url : Bool) : (rounds : Nat) → (pos : UInt32) → (ret : Bytes) → Option Bytes
  | 0, _, _ => none
  | rounds + 1, pos, ret =>
    match bytesToEncode[pos.toNat]? with
    | none => some ret
    | some b0 =>
      encodeLoop bytesToEncode url rounds (pos + 3)
        (ret ++ encodeChunk url b0 bytesToEncode[(pos + 1).toNat]? bytesToEncode[(pos + 2).toNat]?)

def base64Encode (s : Bytes) (url : Bool) : Option Bytes := encodeLoop s url (s.length + 1) 0 []

/-- The loop of `insert_linebreaks`. -/
def insertFrom (distance : Nat) : (rounds pos : Nat) → Bytes → Bytes
  | 0, _, str => str
  | rounds + 1, pos, str =>
    if pos < str.length then insertFrom distance rounds (pos + (distance + 1)) (str.take pos ++ LF :: str.drop pos)
    else str

def insertLinebreaks (str : Bytes) (distance : Nat) : Bytes :=
  if str = [] then [] else insertFrom distance str.length distance str

def encodeWithLineBreaks (lineLength : Nat) (s : Bytes) : Option Bytes :=
  (base64Encode s false).map (insertLinebreaks · lineLength)

def base64EncodePem (s : Bytes) : Option Bytes := encodeWithLineBreaks 64 s

def base64EncodeMime (s : Bytes) : Option Bytes := encodeWithLineBreaks 76 s

/-- `base64_decode` with its second argument. -/
def decode (encodedString : Bytes) (removeLinebreaks : Bool) : Except Bytes Bytes :=
  if encodedString = [] then .ok []
  else if removeLinebreaks then base64Decode (encodedString.filter (· ≠ LF))
  else base64Decode encodedString

/-! What the loop writes. -/

/-- The text of `bytesToEncode`, chunk by chunk. -/
def encoded (url : Bool) : Bytes → Bytes
  | [] => []
  | [b0] => encodeChunk url b0 none none
  | [b0, b1] => encodeChunk url b0 (some b1) none
  | b0 :: b1 :: b2 :: rest => encodeChunk url b0 (some b1) (some b2) ++ encoded url rest

theorem encodeChunk_length (url : Bool) (b0 : UInt8) (b1 b2 : Option UInt8) :
    (encodeChunk url b0 b1 b2).length = 4 := by
  cases b1 with
  | none => rfl
  | some b1 => cases b2 <;> rfl

/-- One round at a time. -/
theorem encoded_cons (url : Bool) (b0 : UInt8) (rest : Bytes) :
    encoded url (b0 :: rest) = encodeChunk url b0 rest[0]? rest[1]? ++ encoded url (rest.drop 2) := by
  match rest with
  | [] => exact (List.append_nil _).symm
  | [b1] => exact (List.append_nil _).symm
  | b1 :: b2 :: rest => rfl

theorem encoded_length (url : Bool) (s : Bytes) : (encoded url s).length = (s.length + 2) / 3 * 4 := by
  induction s using encoded.induct with
  | case1 => rfl
  | case2 b0 =>
    rw [encoded, encodeChunk_length]
    simp
  | case3 b0 b1 =>
    rw [encoded, encodeChunk_length]
    simp
  | case4 b0 b1 b2 rest ih =>
    rw [encoded, List.length_append, encodeChunk_length, ih]
    simp only [List.length_cons]
    omega

theorem pos_add {pos step : Nat} (small : pos + step < 2 ^ 32) :
    (UInt32.ofNat pos + UInt32.ofNat step).toNat = pos + step := by
  rw [← UInt32.ofNat_add, UInt32.toNat_ofNat_of_lt' small]

/-- By induction on the rounds. `pos` does not wrap around: it goes in threes, and `2 ^ 32 - 1` is a multiple of 3. -/
theorem encodeLoop_eq {s : Bytes} (small : s.length < 2 ^ 32) (url : Bool) (rounds pos : Nat) (ret : Bytes)
    (thirds : 3 ∣ pos) (fits : pos < 2 ^ 32) (enough : s.length - pos < rounds) :
    encodeLoop s url rounds (UInt32.ofNat pos) ret = some (ret ++ encoded url (s.drop pos)) := by
  induction rounds generalizing pos ret with
  | zero => omega
  | succ rounds ih =>
    have start : (UInt32.ofNat pos).toNat = pos := UInt32.toNat_ofNat_of_lt' fits
    unfold encodeLoop
    rw [start]
    by_cases inside : pos < s.length
    · have next : pos + 3 < 2 ^ 32 := by omega
      have second : (UInt32.ofNat pos + 1).toNat = pos + 1 := @pos_add pos 1 (by omega)
      have third : (UInt32.ofNat pos + 2).toNat = pos + 2 := @pos_add pos 2 (by omega)
      have after : UInt32.ofNat pos + 3 = UInt32.ofNat (pos + 3) := (UInt32.ofNat_add pos 3).symm
      have cut : s.drop pos = s[pos] :: s.drop (pos + 1) := List.drop_eq_getElem_cons inside
      rw [List.getElem?_eq_getElem inside]
      dsimp only
      rw [second, third, after, ih (pos + 3) _ (by omega) next (by omega), cut, encoded_cons, List.getElem?_drop,
        List.getElem?_drop, List.drop_drop, List.append_assoc]
    · rw [List.getElem?_eq_none (by omega), List.drop_eq_nil_of_le (by omega)]
      exact congrArg some (List.append_nil ret).symm

/-- From `2 ^ 32` bytes on, `pos` wraps around before it comes to the end. -/
theorem encodeLoop_endless {s : Bytes} (large : 2 ^ 32 ≤ s.length) (url : Bool) (rounds : Nat) (pos : UInt32)
    (ret : Bytes) : encodeLoop s url rounds pos ret = none := by
  induction rounds generalizing pos ret with
  | zero => rfl
  | succ rounds ih =>
    have inside : pos.toNat < s.length := Nat.lt_of_lt_of_le pos.toNat_lt large
    unfold encodeLoop
    rw [List.getElem?_eq_getElem inside]
    exact ih _ _

theorem base64Encode_eq {s : Bytes} (small : s.length < 2 ^ 32) (url : Bool) :
    base64Encode s url = some (encoded url s) :=
  encodeLoop_eq small url (s.length + 1) 0 [] (Nat.dvd_zero 3) (by decide) (by omega)

/-! The decoder on it. -/

theorem posOfChar_base64Char (url : Bool) {index : Nat} (small : index < 64) :
    posOfChar (base64Char url index) = .ok index := by
  have every : ∀ url, ∀ index : Fin 64, posOfChar (base64Char url index) = .ok index.val := by decide +kernel
  exact every url ⟨index, small⟩

theorem base64Char_data (url : Bool) {index : Nat} (small : index < 64) :
    isPadding (base64Char url index) = false ∧ base64Char url index ≠ LF := by
  have every : ∀ url, ∀ index : Fin 64,
      isPadding (base64Char url index) = false ∧ base64Char url index ≠ LF := by decide +kernel
  exact every url ⟨index, small⟩

theorem filter_base64Char (url : Bool) {index : Nat} (small : index < 64) :
    (some (base64Char url index)).filter (!isPadding ·) = some (base64Char url index) :=
  Option.filter_some_pos (by rw [(base64Char_data url small).1]; rfl)

theorem filter_trailingChar (url : Bool) : (some (trailingChar url)).filter (!isPadding ·) = none := by
  cases url <;> rfl

/-- The parts of a byte that the masks take, and their parts again. -/
theorem masks {b : Nat} (small : b < 256) :
    (b &&& 0xfc) >>> 2 = b / 4 ∧ (b &&& 0x03) <<< 4 = b % 4 * 16 ∧ (b &&& 0xf0) >>> 4 = b / 16 ∧
      (b &&& 0x0f) <<< 2 = b % 16 * 4 ∧ (b &&& 0xc0) >>> 6 = b / 64 ∧ b &&& 0x3f = b % 64 := by
  have every : ∀ b : Fin 256, (b.val &&& 0xfc) >>> 2 = b.val / 4 ∧ (b.val &&& 0x03) <<< 4 = b.val % 4 * 16 ∧
      (b.val &&& 0xf0) >>> 4 = b.val / 16 ∧ (b.val &&& 0x0f) <<< 2 = b.val % 16 * 4 ∧
      (b.val &&& 0xc0) >>> 6 = b.val / 64 ∧ b.val &&& 0x3f = b.val % 64 := by decide +kernel
  exact every ⟨b, small⟩

theorem sextets {n : Nat} (small : n < 64) :
    n <<< 2 = n * 4 ∧ (n &&& 0x30) >>> 4 = n / 16 ∧ (n &&& 0x0f) <<< 4 = n % 16 * 16 ∧ (n &&& 0x3c) >>> 2 = n / 4 ∧
      (n &&& 0x03) <<< 6 = n % 4 * 64 := by
  have every : ∀ n : Fin 64, n.val <<< 2 = n.val * 4 ∧ (n.val &&& 0x30) >>> 4 = n.val / 16 ∧
      (n.val &&& 0x0f) <<< 4 = n.val % 16 * 16 ∧ (n.val &&& 0x3c) >>> 2 = n.val / 4 ∧
      (n.val &&& 0x03) <<< 6 = n.val % 4 * 64 := by decide +kernel
  exact every ⟨n, small⟩

section

variable (url : Bool) {p0 p1 p2 p3 : Nat}

theorem decodeChunk_one (first : p0 < 64) (second : p1 < 64) (c3 : Option UInt8) :
    decodeChunk (base64Char url p0) (base64Char url p1) (some (trailingChar url)) c3 =
      .ok [UInt8.ofNat (p0 * 4 + p1 / 16)] := by
  rcases sextets first with ⟨shift0, _⟩
  rcases sextets second with ⟨_, high1, _⟩
  unfold decodeChunk
  simp only [posOfChar_base64Char url first, posOfChar_base64Char url second, Bind.bind, Except.bind, shift0, high1,
    filter_trailingChar]
  rfl

theorem decodeChunk_two (first : p0 < 64) (second : p1 < 64) (third : p2 < 64) :
    decodeChunk (base64Char url p0) (base64Char url p1) (some (base64Char url p2)) (some (trailingChar url)) =
      .ok [UInt8.ofNat (p0 * 4 + p1 / 16), UInt8.ofNat (p1 % 16 * 16 + p2 / 4)] := by
  rcases sextets first with ⟨shift0, _⟩
  rcases sextets second with ⟨_, high1, low1, _⟩
  rcases sextets third with ⟨_, _, _, high2, _⟩
  unfold decodeChunk
  simp only [posOfChar_base64Char url first, posOfChar_base64Char url second, posOfChar_base64Char url third, Bind.bind,
    Except.bind, shift0, high1, low1, high2, filter_base64Char url third, filter_trailingChar]
  rfl

theorem decodeChunk_three (first : p0 < 64) (second : p1 < 64) (third : p2 < 64) (fourth : p3 < 64) :
    decodeChunk (base64Char url p0) (base64Char url p1) (some (base64Char url p2)) (some (base64Char url p3)) =
      .ok [UInt8.ofNat (p0 * 4 + p1 / 16), UInt8.ofNat (p1 % 16 * 16 + p2 / 4), UInt8.ofNat (p2 % 4 * 64 + p3)] := by
  rcases sextets first with ⟨shift0, _⟩
  rcases sextets second with ⟨_, high1, low1, _⟩
  rcases sextets third with ⟨_, _, _, high2, low2⟩
  unfold decodeChunk
  simp only [posOfChar_base64Char url first, posOfChar_base64Char url second, posOfChar_base64Char url third,
    posOfChar_base64Char url fourth, Bind.bind, Except.bind, shift0, high1, low1, high2, low2,
    filter_base64Char url third, filter_base64Char url fourth]
  rfl

end

theorem ofNat_eq {n : Nat} {b : UInt8} (same : n = b.toNat) : UInt8.ofNat n = b := by
  rw [same, UInt8.ofNat_toNat]

/-- A chunk gives its bytes back. -/
theorem decodeChunk_encodeChunk (url : Bool) (b0 : UInt8) (b1 b2 : Option UInt8) (whole : b1 = none → b2 = none) :
    ∃ c0 c1 c2 c3, encodeChunk url b0 b1 b2 = [c0, c1, c2, c3] ∧
      decodeChunk c0 c1 (some c2) (some c3) = .ok (b0 :: (b1.toList ++ b2.toList)) := by
  have bound0 := b0.toNat_lt
  rcases masks bound0 with ⟨high0, low0, _⟩
  cases b1 with
  | none =>
    rw [whole rfl]
    refine ⟨_, _, _, _, rfl, ?_⟩
    rw [high0, low0, decodeChunk_one url (by omega) (by omega)]
    have byte0 : b0.toNat / 4 * 4 + b0.toNat % 4 * 16 / 16 = b0.toNat := by omega
    rw [ofNat_eq byte0]
    rfl
  | some b1 =>
    have bound1 := b1.toNat_lt
    rcases masks bound1 with ⟨_, _, high1, low1, _⟩
    have byte0 : b0.toNat / 4 * 4 + (b0.toNat % 4 * 16 + b1.toNat / 16) / 16 = b0.toNat := by omega
    cases b2 with
    | none =>
      refine ⟨_, _, _, _, rfl, ?_⟩
      rw [high0, low0, high1, low1, decodeChunk_two url (by omega) (by omega) (by omega)]
      have byte1 : (b0.toNat % 4 * 16 + b1.toNat / 16) % 16 * 16 + b1.toNat % 16 * 4 / 4 = b1.toNat := by omega
      rw [ofNat_eq byte0, ofNat_eq byte1]
      rfl
    | some b2 =>
      have bound2 := b2.toNat_lt
      rcases masks bound2 with ⟨_, _, _, _, high2, low2⟩
      refine ⟨_, _, _, _, rfl, ?_⟩
      rw [high0, low0, high1, low1, high2, low2,
        decodeChunk_three url (by omega) (by omega) (by omega) (by omega)]
      have byte1 : (b0.toNat % 4 * 16 + b1.toNat / 16) % 16 * 16 + (b1.toNat % 16 * 4 + b2.toNat / 64) / 4 =
          b1.toNat := by omega
      have byte2 : (b1.toNat % 16 * 4 + b2.toNat / 64) % 4 * 64 + b2.toNat % 64 = b2.toNat := by omega
      rw [ofNat_eq byte0, ofNat_eq byte1, ofNat_eq byte2]
      rfl

/-- Chunk by chunk, wherever the text is in what is decoded. -/
theorem decodeFrom_cons (size pos : Nat) (c0 c1 c2 c3 : UInt8) (rest : Bytes) :
    decodeFrom size pos (c0 :: c1 :: c2 :: c3 :: rest) = (do
      let chunk ← decodeChunk c0 c1 (some c2) (some c3)
      let ret ← decodeFrom size (pos + 4) rest
      return chunk ++ ret) := rfl

theorem decodeFrom_encoded (url : Bool) (size pos : Nat) (s : Bytes) :
    decodeFrom size pos (encoded url s) = .ok s := by
  induction s using encoded.induct generalizing pos with
  | case1 => rfl
  | case2 b0 =>
    rcases decodeChunk_encodeChunk url b0 none none (fun _ => rfl) with ⟨c0, c1, c2, c3, shape, back⟩
    rw [encoded, shape, decodeFrom_cons, back]
    rfl
  | case3 b0 b1 =>
    rcases decodeChunk_encodeChunk url b0 (some b1) none nofun with ⟨c0, c1, c2, c3, shape, back⟩
    rw [encoded, shape, decodeFrom_cons, back]
    rfl
  | case4 b0 b1 b2 rest ih =>
    rcases decodeChunk_encodeChunk url b0 (some b1) (some b2) nofun with ⟨c0, c1, c2, c3, shape, back⟩
    rw [encoded, shape]
    show decodeFrom size pos (c0 :: c1 :: c2 :: c3 :: encoded url rest) = _
    rw [decodeFrom_cons, back, ih]
    rfl

theorem encodeChunk_chars (url : Bool) (b0 : UInt8) (b1 b2 : Option UInt8) {c : UInt8}
    (member : c ∈ encodeChunk url b0 b1 b2) : (∃ index < 64, c = base64Char url index) ∨ c = trailingChar url := by
  rcases masks b0.toNat_lt with ⟨high0, low0, _⟩
  have bound0 := b0.toNat_lt
  cases b1 with
  | none =>
    simp only [encodeChunk, high0, low0, List.mem_cons, List.not_mem_nil, or_false] at member
    rcases member with rfl | rfl | rfl | rfl
    · exact Or.inl ⟨_, by omega, rfl⟩
    · exact Or.inl ⟨_, by omega, rfl⟩
    · exact Or.inr rfl
    · exact Or.inr rfl
  | some b1 =>
    rcases masks b1.toNat_lt with ⟨_, _, high1, low1, _⟩
    have bound1 := b1.toNat_lt
    cases b2 with
    | none =>
      simp only [encodeChunk, high0, low0, high1, low1, List.mem_cons, List.not_mem_nil, or_false] at member
      rcases member with rfl | rfl | rfl | rfl
      · exact Or.inl ⟨_, by omega, rfl⟩
      · exact Or.inl ⟨_, by omega, rfl⟩
      · exact Or.inl ⟨_, by omega, rfl⟩
      · exact Or.inr rfl
    | some b2 =>
      rcases masks b2.toNat_lt with ⟨_, _, _, _, high2, low2⟩
      have bound2 := b2.toNat_lt
      simp only [encodeChunk, high0, low0, high1, low1, high2, low2, List.mem_cons, List.not_mem_nil,
        or_false] at member
      rcases member with rfl | rfl | rfl | rfl
      · exact Or.inl ⟨_, by omega, rfl⟩
      · exact Or.inl ⟨_, by omega, rfl⟩
      · exact Or.inl ⟨_, by omega, rfl⟩
      · exact Or.inl ⟨_, by omega, rfl⟩

theorem encoded_noNewline (url : Bool) (s : Bytes) : LF ∉ encoded url s := by
  have chunk : ∀ b0 b1 b2, LF ∉ encodeChunk url b0 b1 b2 := by
    intro b0 b1 b2 member
    rcases encodeChunk_chars url b0 b1 b2 member with ⟨index, small, same⟩ | same
    · exact (base64Char_data url small).2 same.symm
    · cases url <;> cases same
  induction s using encoded.induct with
  | case1 => exact List.not_mem_nil
  | case2 b0 => exact chunk b0 none none
  | case3 b0 b1 => exact chunk b0 (some b1) none
  | case4 b0 b1 b2 rest ih =>
    rw [encoded, List.mem_append, not_or]
    exact ⟨chunk b0 (some b1) (some b2), ih⟩

theorem filter_noNewline {text : Bytes} (absent : LF ∉ text) : text.filter (· ≠ LF) = text := by
  apply List.filter_eq_self.mpr
  intro c member
  exact decide_eq_true fun same => absent (same ▸ member)

theorem decode_false (text : Bytes) : decode text false = base64Decode text := by
  unfold decode
  split
  · next empty =>
    subst empty
    rfl
  · rfl

theorem decode_true (text : Bytes) : decode text true = base64Decode (text.filter (· ≠ LF)) := by
  unfold decode
  split
  · next empty =>
    subst empty
    rfl
  · rfl

/-- The encoder ends exactly below `2 ^ 32` bytes, and its text is decoded to the bytes it was made of, with and without
    the removal of line breaks. -/
theorem base64_round_trip (s : Bytes) (url : Bool) :
    ((∃ rounds text, encodeLoop s url rounds 0 [] = some text) ↔ s.length < 2 ^ 32) ∧
      ∀ text, base64Encode s url = some text → text.length = (s.length + 2) / 3 * 4 ∧
        ∀ removeLinebreaks, decode text removeLinebreaks = .ok s := by
  have ends : s.length < 2 ^ 32 ∨ ∀ rounds, encodeLoop s url rounds 0 [] = none := by
    rcases Nat.lt_or_ge s.length (2 ^ 32) with small | large
    · exact Or.inl small
    · exact Or.inr fun rounds => encodeLoop_endless large url rounds 0 []
  apply And.intro
  · apply Iff.intro
    · rintro ⟨rounds, text, done⟩
      rcases ends with small | never
      · exact small
      · rw [never] at done
        cases done
    · exact fun small => ⟨_, _, base64Encode_eq small url⟩
  · intro text done
    rcases ends with small | never
    · rw [base64Encode_eq small url] at done
      obtain rfl := Option.some.inj done
      refine ⟨encoded_length url s, ?_⟩
      intro removeLinebreaks
      cases removeLinebreaks with
      | false =>
        rw [decode_false]
        exact decodeFrom_encoded url _ 0 s
      | true =>
        rw [decode_true, filter_noNewline (encoded_noNewline url s)]
        exact decodeFrom_encoded url _ 0 s
    · rw [base64Encode, never] at done
      cases done

/-! The line breaks. -/

/-- A text cut into lines that are full but for the last one, which is not empty. -/
structure Lines (distance : Nat) (text : Bytes) (lines : List Bytes) : Prop where
  whole : lines.flatten = text
  full : ∀ line ∈ lines.dropLast, line.length = distance
  last : ∀ line ∈ lines, line ≠ [] ∧ line.length ≤ distance

theorem Lines.single {distance : Nat} {text : Bytes} (filled : text ≠ []) (short : text.length ≤ distance) :
    Lines distance text [text] := by
  refine ⟨by simp, nofun, ?_⟩
  intro line member
  rw [List.mem_singleton.mp member]
  exact ⟨filled, short⟩

theorem Lines.cons {distance : Nat} {line text : Bytes} {lines : List Bytes} (positive : 0 < distance)
    (full : line.length = distance) (filled : text ≠ []) (cut : Lines distance text lines) :
    Lines distance (line ++ text) (line :: lines) ∧
      [LF].intercalate (line :: lines) = line ++ LF :: [LF].intercalate lines := by
  have more : lines ≠ [] := by
    intro none_
    have empty := cut.whole
    rw [none_] at empty
    exact filled empty.symm
  refine ⟨⟨?_, ?_, ?_⟩, ?_⟩
  · rw [List.flatten_cons, cut.whole]
  · intro other member
    rw [List.dropLast_cons_of_ne_nil more] at member
    rcases List.mem_cons.mp member with rfl | later
    · exact full
    · exact cut.full other later
  · intro other member
    rcases List.mem_cons.mp member with rfl | later
    · exact ⟨List.ne_nil_of_length_pos (by omega), full.le⟩
    · exact cut.last other later
  · rw [List.intercalate_cons_of_ne_nil more]
    simp

theorem Lines.first_break {distance : Nat} {text : Bytes} {lines : List Bytes} (cut : Lines distance text lines)
    (long : distance < text.length) :
    ∃ c1 rest, [LF].intercalate lines = text.take distance ++ LF :: c1 :: rest := by
  match lines with
  | [] =>
    have whole := cut.whole
    subst whole
    cases long
  | [line] =>
    have whole := cut.whole
    have bound := (cut.last line (List.mem_singleton_self line)).2
    simp only [List.flatten_cons, List.flatten_nil, List.append_nil] at whole
    rw [whole] at bound
    omega
  | line :: next :: more =>
    have full := cut.full line (List.mem_cons_self ..)
    have later := (cut.last next (List.mem_cons_of_mem _ (List.mem_cons_self ..))).1
    have line_ : text.take distance = line := by
      rw [← cut.whole, List.flatten_cons, List.take_left' full]
    rcases List.exists_cons_of_ne_nil later with ⟨c1, rest, rfl⟩
    rw [line_, List.intercalate_cons_of_ne_nil (List.cons_ne_nil _ more)]
    cases more with
    | nil => exact ⟨c1, rest, by simp⟩
    | cons other others =>
      refine ⟨c1, rest ++ LF :: [LF].intercalate (other :: others), ?_⟩
      rw [List.intercalate_cons_of_ne_nil (List.cons_ne_nil other others)]
      simp

/-- By induction on the rounds: what is before the current line stays as it is. -/
theorem insertFrom_lines {distance : Nat} (positive : 0 < distance) (rounds : Nat) (front rest : Bytes)
    (filled : rest ≠ []) (enough : rest.length ≤ rounds) :
    ∃ lines, Lines distance rest lines ∧
      insertFrom distance rounds (front.length + distance) (front ++ rest) = front ++ [LF].intercalate lines := by
  induction rounds generalizing front rest with
  | zero => exact absurd (List.eq_nil_of_length_eq_zero (Nat.le_zero.mp enough)) filled
  | succ rounds ih =>
    unfold insertFrom
    rw [List.length_append]
    by_cases long : distance < rest.length
    · rw [if_pos (by omega), List.take_length_add_append, List.drop_length_add_append]
      have full : (rest.take distance).length = distance := List.length_take_of_le (by omega)
      have left : rest.drop distance ≠ [] := by
        apply List.ne_nil_of_length_pos
        rw [List.length_drop]
        omega
      rcases ih (front ++ rest.take distance ++ [LF]) (rest.drop distance) left
        (by rw [List.length_drop]; omega) with ⟨lines, cut, written⟩
      rcases Lines.cons positive full left cut with ⟨whole, joined⟩
      rw [List.take_append_drop] at whole
      refine ⟨_, whole, ?_⟩
      have place : front.length + distance + (distance + 1) =
          (front ++ rest.take distance ++ [LF]).length + distance := by
        simp only [List.length_append, full, List.length_singleton]
        omega
      have text : front ++ rest.take distance ++ LF :: rest.drop distance =
          front ++ rest.take distance ++ [LF] ++ rest.drop distance := by simp
      rw [place, text, written, joined]
      simp
    · rw [if_neg (by omega)]
      refine ⟨[rest], Lines.single filled (by omega), ?_⟩
      simp

theorem insertFrom_filter (distance rounds pos : Nat) (str : Bytes) :
    (insertFrom distance rounds pos str).filter (· ≠ LF) = str.filter (· ≠ LF) := by
  induction rounds generalizing pos str with
  | zero => rfl
  | succ rounds ih =>
    unfold insertFrom
    split
    · rw [ih, List.filter_append, List.filter_cons_of_neg (by simp), ← List.filter_append, List.take_append_drop]
    · rfl

theorem encoded_append (url : Bool) {front : Bytes} (thirds : 3 ∣ front.length) (rest : Bytes) :
    encoded url (front ++ rest) = encoded url front ++ encoded url rest := by
  induction front using encoded.induct with
  | case1 => rfl
  | case2 b0 => simp at thirds
  | case3 b0 b1 => simp at thirds
  | case4 b0 b1 b2 front ih =>
    have fewer : 3 ∣ front.length := by
      simp only [List.length_cons] at thirds
      omega
    show encodeChunk url b0 (some b1) (some b2) ++ encoded url (front ++ rest) = _
    rw [ih fewer, encoded, List.append_assoc]

/-- A text of whole chunks is decoded before what follows it, also where its last chunk is padded. -/
theorem decodeFrom_append (size pos : Nat) {front : Bytes} (fours : 4 ∣ front.length) (rest : Bytes) :
    decodeFrom size pos (front ++ rest) = (do
      let first ← decodeFrom size pos front
      let second ← decodeFrom size (pos + front.length) rest
      return first ++ second) := by
  induction pos, front using decodeFrom.induct with
  | case1 pos =>
    show decodeFrom size pos rest = (decodeFrom size pos rest).bind fun second => .ok ([] ++ second)
    cases decodeFrom size pos rest <;> rfl
  | case2 pos c0 => simp at fours
  | case3 pos c0 c1 => simp at fours
  | case4 pos c0 c1 c2 => simp at fours
  | case5 pos c0 c1 c2 c3 front ih =>
    have fewer : 4 ∣ front.length := by
      simp only [List.length_cons] at fours
      omega
    have place : pos + (c0 :: c1 :: c2 :: c3 :: front).length = pos + 4 + front.length := by
      simp only [List.length_cons]
      omega
    show decodeFrom size pos (c0 :: c1 :: c2 :: c3 :: (front ++ rest)) = _
    rw [decodeFrom_cons, decodeFrom_cons, ih fewer, place]
    simp only [Bind.bind, Except.bind]
    cases decodeChunk c0 c1 (some c2) (some c3) with
    | error what => rfl
    | ok chunk =>
      dsimp only
      cases decodeFrom size (pos + 4) front with
      | error what => rfl
      | ok first =>
        dsimp only
        cases decodeFrom size (pos + 4 + front.length) rest with
        | error what => rfl
        | ok second => exact congrArg Except.ok (List.append_assoc ..).symm

def invalidData : Bytes := bytes "Input is not valid base64-encoded data."

theorem posOfChar_cases (chr : UInt8) :
    (∃ index < 64, posOfChar chr = .ok index) ∨ posOfChar chr = .error invalidData := by
  have bound := chr.toNat_lt
  unfold posOfChar
  simp only [UInt8.le_iff_toNat_le]
  split
  · next upper => exact Or.inl ⟨_, by have := upper.2; change _ ≤ 90 at this; omega, rfl⟩
  split
  · next lower => exact Or.inl ⟨_, by have := lower.2; change _ ≤ 122 at this; omega, rfl⟩
  split
  · next digit => exact Or.inl ⟨_, by have := digit.2; change _ ≤ 57 at this; omega, rfl⟩
  split
  · exact Or.inl ⟨62, by decide, rfl⟩
  split
  · exact Or.inl ⟨63, by decide, rfl⟩
  · exact Or.inr rfl

def isData (c : UInt8) : Bool := (posOfChar c).toBool

/-- What a chunk must be: what is not padding is data, and behind padding nothing is looked at. -/
structure GoodChunk (c0 c1 : UInt8) (c2 c3 : Option UInt8) : Prop where
  first : isData c0 = true
  second : isData c1 = true
  third : ∀ c ∈ c2.filter (!isPadding ·), isData c = true
  fourth : c2.filter (!isPadding ·) ≠ none → ∀ c ∈ c3.filter (!isPadding ·), isData c = true

theorem isData_true {c : UInt8} (data : isData c = true) : ∃ index, posOfChar c = .ok index := by
  rcases posOfChar_cases c with ⟨index, _, found⟩ | failed
  · exact ⟨index, found⟩
  · rw [isData, failed] at data
    cases data

theorem isData_false {c : UInt8} (other : ¬ isData c = true) : posOfChar c = .error invalidData := by
  rcases posOfChar_cases c with ⟨index, _, found⟩ | failed
  · rw [isData, found] at other
    exact absurd rfl other
  · exact failed

theorem decodeChunk_good {c0 c1 : UInt8} {c2 c3 : Option UInt8} (good : GoodChunk c0 c1 c2 c3) :
    ∃ chunk, decodeChunk c0 c1 c2 c3 = .ok chunk := by
  rcases isData_true good.first with ⟨pos0, read0⟩
  rcases isData_true good.second with ⟨pos1, read1⟩
  unfold decodeChunk
  simp only [read0, read1, Bind.bind, Except.bind]
  cases third : c2.filter (!isPadding ·) with
  | none => exact ⟨_, rfl⟩
  | some c2 =>
    rcases isData_true (good.third c2 third) with ⟨pos2, read2⟩
    dsimp only
    rw [read2]
    dsimp only
    cases fourth : c3.filter (!isPadding ·) with
    | none => exact ⟨_, rfl⟩
    | some c3 =>
      rcases isData_true (good.fourth (by rw [third]; nofun) c3 fourth) with ⟨pos3, read3⟩
      dsimp only
      rw [read3]
      exact ⟨_, rfl⟩

theorem decodeChunk_bad {c0 c1 : UInt8} {c2 c3 : Option UInt8} (bad : ¬ GoodChunk c0 c1 c2 c3) :
    decodeChunk c0 c1 c2 c3 = .error invalidData := by
  unfold decodeChunk
  by_cases second : isData c1 = true
  swap
  · rw [isData_false second]
    rfl
  by_cases first : isData c0 = true
  swap
  · rcases isData_true second with ⟨pos1, read1⟩
    rw [read1, isData_false first]
    rfl
  rcases isData_true first with ⟨pos0, read0⟩
  rcases isData_true second with ⟨pos1, read1⟩
  simp only [read0, read1, Bind.bind, Except.bind]
  cases third : c2.filter (!isPadding ·) with
  | none => exact absurd ⟨first, second, by rw [third]; nofun, fun more => absurd third more⟩ bad
  | some c2 =>
    dsimp only
    by_cases data2 : isData c2 = true
    swap
    · rw [isData_false data2]
    rcases isData_true data2 with ⟨pos2, read2⟩
    rw [read2]
    dsimp only
    cases fourth : c3.filter (!isPadding ·) with
    | none =>
      refine absurd ⟨first, second, ?_, fun _ => by rw [fourth]; nofun⟩ bad
      intro c same
      rw [third] at same
      cases same
      exact data2
    | some c3 =>
      dsimp only
      by_cases data3 : isData c3 = true
      · refine absurd ⟨first, second, ?_, ?_⟩ bad
        · intro c same
          rw [third] at same
          cases same
          exact data2
        · intro _ c same
          rw [fourth] at same
          cases same
          exact data3
      · rw [isData_false data3]

/-- Every chunk of which the text has two characters is good. -/
def Chunked (text : Bytes) : Prop :=
  ∀ i c0 c1, text[4 * i]? = some c0 → text[4 * i + 1]? = some c1 → GoodChunk c0 c1 text[4 * i + 2]? text[4 * i + 3]?

theorem chunked_cons {c0 c1 c2 c3 : UInt8} {rest : Bytes} :
    Chunked (c0 :: c1 :: c2 :: c3 :: rest) ↔ GoodChunk c0 c1 (some c2) (some c3) ∧ Chunked rest := by
  apply Iff.intro
  · intro chunked
    exact ⟨chunked 0 c0 c1 rfl rfl, fun i d0 d1 => chunked (i + 1) d0 d1⟩
  · rintro ⟨good, chunked⟩ i d0 d1 first second
    cases i with
    | zero =>
      cases first
      cases second
      exact good
    | succ i => exact chunked i d0 d1 first second

theorem chunked_short {c0 c1 : UInt8} {rest : Bytes} (short : rest.length ≤ 1) :
    Chunked (c0 :: c1 :: rest) ↔ GoodChunk c0 c1 rest[0]? rest[1]? := by
  apply Iff.intro
  · exact fun chunked => chunked 0 c0 c1 rfl rfl
  · intro good i d0 d1 first second
    cases i with
    | zero =>
      cases first
      cases second
      exact good
    | succ i =>
      have bound := (List.getElem?_eq_some_iff.mp first).1
      simp only [List.length_cons] at bound
      omega

/-- How the decoder ends: by induction on the chunks, the first of which that is not good decides. -/
theorem decodeFrom_ends (size pos : Nat) (text : Bytes) :
    (Chunked text → text.length % 4 ≠ 1 → ∃ data, decodeFrom size pos text = .ok data) ∧
      (Chunked text → text.length % 4 = 1 → decodeFrom size pos text = .error (outOfRange (pos + text.length) size)) ∧
      (¬ Chunked text → decodeFrom size pos text = .error invalidData) := by
  induction pos, text using decodeFrom.induct with
  | case1 pos => exact ⟨fun _ _ => ⟨[], rfl⟩, nofun, fun bad => absurd (fun i c0 c1 first => by cases first) bad⟩
  | case2 pos c0 =>
    refine ⟨fun _ other => absurd rfl other, fun _ _ => rfl, fun bad => absurd ?_ bad⟩
    intro i d0 d1 first second
    have bound := (List.getElem?_eq_some_iff.mp second).1
    simp only [List.length_singleton] at bound
    omega
  | case3 pos c0 c1 =>
    have shape := @chunked_short c0 c1 [] (by decide)
    exact ⟨fun chunked _ => decodeChunk_good (shape.mp chunked), nofun, fun bad => decodeChunk_bad (mt shape.mpr bad)⟩
  | case4 pos c0 c1 c2 =>
    have shape := @chunked_short c0 c1 [c2] (Nat.le_refl 1)
    exact ⟨fun chunked _ => decodeChunk_good (shape.mp chunked), nofun, fun bad => decodeChunk_bad (mt shape.mpr bad)⟩
  | case5 pos c0 c1 c2 c3 rest ih =>
    rcases ih with ⟨whole, single, bad⟩
    have length : (c0 :: c1 :: c2 :: c3 :: rest).length = rest.length + 4 := rfl
    rw [decodeFrom_cons, chunked_cons, length]
    refine ⟨?_, ?_, ?_⟩
    · rintro ⟨good, chunked⟩ other
      rcases decodeChunk_good good with ⟨chunk, read⟩
      rcases whole chunked (by omega) with ⟨data, decoded⟩
      rw [read, decoded]
      exact ⟨_, rfl⟩
    · rintro ⟨good, chunked⟩ one
      rcases decodeChunk_good good with ⟨chunk, read⟩
      rw [read, single chunked (by omega), Nat.add_assoc pos 4, Nat.add_comm 4]
      rfl
    · intro other
      by_cases good : GoodChunk c0 c1 (some c2) (some c3)
      · rcases decodeChunk_good good with ⟨chunk, read⟩
        rw [read, bad fun chunked => other ⟨good, chunked⟩]
        rfl
      · rw [decodeChunk_bad good]
        rfl

/-- Which texts are decoded, and what is thrown for the others. -/
theorem base64_decode_ends (text : Bytes) :
    ((∃ data, decode text false = .ok data) ↔ Chunked text ∧ text.length % 4 ≠ 1) ∧
      ∀ what, decode text false = .error what ↔
        (¬ Chunked text ∧ what = invalidData) ∨
          (Chunked text ∧ text.length % 4 = 1 ∧ what = outOfRange text.length text.length) := by
  rcases decodeFrom_ends text.length 0 text with ⟨whole, single, bad⟩
  have plain : decode text false = decodeFrom text.length 0 text := decode_false text
  rw [Nat.zero_add] at single
  rw [plain]
  by_cases chunked : Chunked text
  swap
  · rw [bad chunked]
    simp [chunked, eq_comm]
  by_cases one : text.length % 4 = 1
  · rw [single chunked one]
    simp [chunked, one, eq_comm]
  · rcases whole chunked one with ⟨data, decoded⟩
    rw [decoded]
    simp [chunked, one]

/-! The encoders with line breaks. -/

theorem decodeFrom_newline (size pos : Nat) (c1 : UInt8) (rest : Bytes) :
    decodeFrom size pos (LF :: c1 :: rest) = .error invalidData := by
  apply (decodeFrom_ends size pos _).2.2
  intro chunked
  have good := chunked 0 LF c1 rfl rfl
  cases good.first

/-- A text with line breaks: its lines are full, and it is decoded without its line breaks, and with them where it has
    none. -/
structure LineBroken (groups : Nat) (s text : Bytes) : Prop where
  lines : ∃ lines, Lines (4 * groups) (encoded false s) lines ∧ text = [LF].intercalate lines
  removed : decode text true = .ok s
  short : s.length ≤ 3 * groups → decode text false = .ok s
  long : 3 * groups < s.length → decode text false = .error invalidData

theorem lineBroken {groups : Nat} (positive : 0 < groups) {s text : Bytes}
    (done : encodeWithLineBreaks (4 * groups) s = some text) : LineBroken groups s text := by
  rcases Option.map_eq_some_iff.mp done with ⟨plain, ended, broken⟩
  have same : plain = encoded false s := by
    rcases Nat.lt_or_ge s.length (2 ^ 32) with small | large
    · exact Option.some.inj (ended.symm.trans (base64Encode_eq small false))
    · cases ended.symm.trans (encodeLoop_endless large false _ 0 [])
  subst same
  by_cases empty : s = []
  · subst empty
    subst broken
    exact ⟨⟨[], ⟨rfl, nofun, nofun⟩, rfl⟩, rfl, fun _ => rfl, nofun⟩
  have some_ : 0 < s.length := List.length_pos_iff.mpr empty
  have size := encoded_length false s
  have filled : encoded false s ≠ [] := List.ne_nil_of_length_pos (by omega)
  unfold insertLinebreaks at broken
  rw [if_neg filled] at broken
  rcases insertFrom_lines (by omega : 0 < 4 * groups) (encoded false s).length [] (encoded false s) filled
    (Nat.le_refl _) with ⟨lines, cut, written⟩
  rw [List.length_nil, Nat.zero_add, List.nil_append, List.nil_append, broken] at written
  refine ⟨⟨lines, cut, written⟩, ?_, ?_, ?_⟩
  · rw [decode_true, ← broken, insertFrom_filter, filter_noNewline (encoded_noNewline false s)]
    exact decodeFrom_encoded false _ 0 s
  · intro short
    have once : insertFrom (4 * groups) (encoded false s).length (4 * groups) (encoded false s) = encoded false s := by
      cases (encoded false s).length with
      | zero => rfl
      | succ rounds => exact if_neg (by omega)
    rw [decode_false, ← broken, once]
    exact decodeFrom_encoded false _ 0 s
  · intro long
    -- The first line is decoded; the chunk after it begins with the line break.
    have front : (encoded false (s.take (3 * groups))).length = 4 * groups := by
      rw [encoded_length, List.length_take]
      omega
    have shape : encoded false (s.take (3 * groups)) ++ encoded false (s.drop (3 * groups)) = encoded false s := by
      rw [← encoded_append false (by rw [List.length_take]; omega), List.take_append_drop]
    have first : (encoded false s).take (4 * groups) = encoded false (s.take (3 * groups)) := by
      rw [← shape, List.take_left' front]
    rcases cut.first_break (by omega) with ⟨c1, rest, joined⟩
    rw [decode_false, base64Decode, written, joined, first,
      decodeFrom_append _ 0 (by rw [front]; exact Nat.dvd_mul_right 4 groups), decodeFrom_encoded, decodeFrom_newline]
    rfl

theorem line_breaks_round_trip (s text : Bytes) :
    (base64EncodePem s = some text → LineBroken 16 s text) ∧ (base64EncodeMime s = some text → LineBroken 19 s text) :=
  ⟨@lineBroken 16 (by decide) s text, @lineBroken 19 (by decide) s text⟩

end Chat
