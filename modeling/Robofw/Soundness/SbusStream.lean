import Robofw.Model.Sbus

/-! # The SBUS decoder parses blocks

The reference parser cuts a whole stream into blocks of 25 bytes that begin with the header, and keeps
those that end with the tail. The decoder's buffer holds the block that is open, so its calls emit
what the reference parser emits, they stay inside the buffer, and only an emitting call writes the
output message.
-/

namespace Robofw.Model

open Robofw.Core

/-- The message of a block: none unless the block ends with the tail. -/
def frameMessage (block : SbusBytes) : Option SbusMessage :=
  if block.get 24 = sbusFrameTail then some (sbusBuildMessage block) else none

/-- The reference parser. -/
def parseSbus (stream : List UInt8) : List SbusMessage :=
  (blocks sbusFrameHead 25 stream).filterMap frameMessage

/-- One call of the decoder: the output message before and after it, and the value returned. -/
structure DecodeCall where
  before : SbusMessage
  after : SbusMessage
  returned : Bool

/-- The calls that decode a stream; none when one of them writes out of bounds. -/
def decodeCalls (inst : SbusDecoderInstance) (sbusMsg : SbusMessage) :
    List UInt8 → Option (List DecodeCall)
  | [] => some []
  | ch :: rest =>
    match sbusDecodeMessage inst ch sbusMsg with
    | none => none
    | some (next, after, returned) =>
      (decodeCalls next after rest).map (⟨sbusMsg, after, returned⟩ :: ·)

/-- The messages of the calls that return true. -/
def emitted (calls : List DecodeCall) : List SbusMessage :=
  (calls.filter (·.returned)).map (·.after)

/-- The decoder holds this open block: its state tells how far the block is, and its buffer begins
with the bytes of the block. -/
structure Represents (inst : SbusDecoderInstance) (opened : List UInt8) : Prop where
  idle : opened = [] → inst.decodeState = .waitForSof
  payload : opened ≠ [] → opened.length < 24 → inst.decodeState = .waitForPayload
  full : opened.length = 24 → inst.decodeState = .waitForEof
  indexer : opened ≠ [] → opened.length = inst.indexer + 1
  buffered : inst.data.toList.take opened.length = opened

theorem represents_nil {inst : SbusDecoderInstance} (state : inst.decodeState = .waitForSof) :
    Represents inst [] :=
  ⟨fun _ => state, fun other => absurd rfl other, fun full => by simp at full,
    fun other => absurd rfl other, rfl⟩

/-- Writing right behind the buffered bytes extends them. -/
private theorem take_set {data : SbusBytes} {opened : List UInt8} {position : ℕ}
    (inside : position < 25) (length : opened.length = position)
    (buffered : data.toList.take opened.length = opened) (ch : UInt8) :
    (data.set position ch inside).toList.take (opened ++ [ch]).length = opened ++ [ch] := by
  have bound : position < (data.toList.set position ch).length := by
    rw [List.length_set, Vector.length_toList]
    exact inside
  have written : (data.set position ch inside).toList = data.toList.set position ch := rfl
  rw [written, List.length_append, List.length_singleton, length,
    List.take_succ_eq_append_getElem bound, List.take_set_of_le (Nat.le_refl _),
    List.getElem_set_self, ← length, buffered]

/-- The answer of a call that completes this block, or none. -/
def answer (sbusMsg : SbusMessage) (completed : Option SbusBytes) : SbusMessage × Bool :=
  match completed.bind frameMessage with
  | some message => (message, true)
  | none => (sbusMsg, false)

/-- Storing a byte right behind the open block extends the block. -/
private theorem store_represents {inst : SbusDecoderInstance} {opened : List UInt8}
    (position : opened.length = inst.indexer + 1) (inside : opened.length < 25)
    (buffered : inst.data.toList.take opened.length = opened) (ch : UInt8) :
    ∃ stored, inst.store ch = some stored ∧ stored.indexer = opened.length ∧
      stored.data.toList.take (opened ++ [ch]).length = opened ++ [ch] := by
  have bound : inst.indexer + 1 < 25 := by omega
  refine ⟨_, dif_pos bound, position.symm, ?_⟩
  exact take_set bound position buffered ch

/-- With no open block, a header opens one and any other byte is skipped. -/
private theorem decode_waitForSof {inst : SbusDecoderInstance}
    (state : inst.decodeState = .waitForSof) (ch : UInt8) (sbusMsg : SbusMessage) :
    ∃ next, sbusDecodeMessage inst ch sbusMsg = some (next, sbusMsg, false) ∧
      Represents next (feed sbusFrameHead 25 [] ch).1 ∧ (feed sbusFrameHead 25 [] ch).2 = none := by
  by_cases head : ch = sbusFrameHead
  · rw [feed_more (by simp [head]) (by simp)]
    refine ⟨_, by simp only [sbusDecodeMessage, state, if_pos head]; rfl, ?_, rfl⟩
    refine ⟨by simp, fun _ _ => rfl, by simp, fun _ => rfl, ?_⟩
    exact take_set (by decide) rfl rfl ch
  · rw [feed_skip head]
    exact ⟨_, by simp only [sbusDecodeMessage, state, if_neg head]; rfl, represents_nil rfl, rfl⟩

/-- A byte that does not fill the open block is stored behind it. -/
private theorem decode_waitForPayload {inst : SbusDecoderInstance} {opened : List UInt8}
    (represents : Represents inst opened) (start : opened ≠ []) (room : opened.length < 24)
    (ch : UInt8) (sbusMsg : SbusMessage) :
    ∃ next, sbusDecodeMessage inst ch sbusMsg = some (next, sbusMsg, false) ∧
      Represents next (opened ++ [ch]) := by
  have state := represents.payload start room
  obtain ⟨stored, success, position, written⟩ :=
    store_represents (represents.indexer start) (by omega) represents.buffered ch
  refine ⟨_, by simp only [sbusDecodeMessage, state, success]; rfl, ?_⟩
  refine ⟨by simp, fun _ length => ?_, fun length => ?_, fun _ => ?_, written⟩
  · rw [List.length_append, List.length_singleton] at length
    exact if_neg (by omega)
  · rw [List.length_append, List.length_singleton] at length
    exact if_pos (by omega)
  · rw [List.length_append, List.length_singleton]
    exact congrArg (· + 1) position.symm

/-- The byte that fills the open block closes it; a tail is stored, and answered with the message. -/
private theorem decode_waitForEof {inst : SbusDecoderInstance} {opened : List UInt8}
    (represents : Represents inst opened) (last : opened.length = 24) {ch : UInt8}
    (complete : (opened ++ [ch]).length = 25) (sbusMsg : SbusMessage) :
    ∃ next, sbusDecodeMessage inst ch sbusMsg =
        some (next, answer sbusMsg (some (vectorOf (opened ++ [ch]) complete))) ∧
      Represents next [] ∧
      ((vectorOf (opened ++ [ch]) complete).get 24 = sbusFrameTail →
        next.data = vectorOf (opened ++ [ch]) complete) := by
  have state := represents.full last
  have start : opened ≠ [] := List.ne_nil_of_length_pos (by omega)
  obtain ⟨stored, success, position, written⟩ :=
    store_represents (represents.indexer start) (by omega) represents.buffered ch
  have block : stored.data = vectorOf (opened ++ [ch]) complete := by
    rw [complete, List.take_of_length_le (by simp)] at written
    exact (vectorOf_eq written.symm).symm
  have final : (vectorOf (opened ++ [ch]) complete).get 24 = ch := by
    have read := toList_getElem? (vectorOf (opened ++ [ch]) complete) 24
    have behind : (opened ++ [ch])[24]? = some ch := last ▸ List.getElem?_concat_length
    exact Option.some.inj (read.symm.trans behind)
  by_cases tail : ch = sbusFrameTail
  · refine ⟨{ stored with decodeState := .waitForSof }, ?_, represents_nil rfl, fun _ => block⟩
    simp only [sbusDecodeMessage, state, if_pos tail, success, Option.map_some, answer,
      Option.bind_some, frameMessage, final, block]
  · refine ⟨{ inst with decodeState := .waitForSof }, ?_, represents_nil rfl, ?_⟩
    · simp only [sbusDecodeMessage, state, if_neg tail, answer, Option.bind_some, frameMessage, final]
    · exact fun accepted => absurd (final.symm.trans accepted) tail

/-- A call feeds its byte to the open block, and answers with the message of a completed block, whose
bytes are in the buffer then. -/
theorem sbusDecodeMessage_represents {inst : SbusDecoderInstance} {opened : List UInt8}
    (represents : Represents inst opened) (isOpen : Opened sbusFrameHead 25 opened) (ch : UInt8)
    (sbusMsg : SbusMessage) :
    ∃ next, sbusDecodeMessage inst ch sbusMsg =
        some (next, answer sbusMsg (feed sbusFrameHead 25 opened ch).2) ∧
      Represents next (feed sbusFrameHead 25 opened ch).1 ∧
      ∀ block, (feed sbusFrameHead 25 opened ch).2 = some block → block.get 24 = sbusFrameTail →
        next.data = block := by
  have short := isOpen.short
  by_cases start : opened = []
  · subst start
    obtain ⟨next, success, after, none⟩ := decode_waitForSof (represents.idle rfl) ch sbusMsg
    refine ⟨next, none ▸ success, after, fun block completed => ?_⟩
    rw [none] at completed
    contradiction
  · have taken : ¬ (opened = [] ∧ ch ≠ sbusFrameHead) := fun both => start both.1
    by_cases last : opened.length = 24
    · have complete : (opened ++ [ch]).length = 25 := by simp [last]
      obtain ⟨next, success, after, buffer⟩ := decode_waitForEof represents last complete sbusMsg
      rw [feed_full taken complete]
      refine ⟨next, success, after, fun block completed tail => ?_⟩
      obtain rfl := Option.some.inj completed
      exact buffer tail
    · have notFull : (opened ++ [ch]).length ≠ 25 := by simp; omega
      obtain ⟨next, success, after⟩ :=
        decode_waitForPayload represents start (by omega) ch sbusMsg
      rw [feed_more taken notFull]
      exact ⟨next, success, after, fun _ completed => by contradiction⟩

/-- What decoding a stream from an open block does, call by call. -/
structure Decodes (calls : List DecodeCall) (messages : List SbusMessage) : Prop where
  messages : emitted calls = messages
  untouched : ∀ call ∈ calls, call.returned = false → call.after = call.before

theorem Decodes.cons {calls : List DecodeCall} {messages : List SbusMessage}
    (decodes : Decodes calls messages) (sbusMsg : SbusMessage) (completed : Option SbusBytes) :
    Decodes (⟨sbusMsg, (answer sbusMsg completed).1, (answer sbusMsg completed).2⟩ :: calls)
      ((completed.bind frameMessage).toList ++ messages) := by
  obtain ⟨same, untouched⟩ := decodes
  unfold answer
  cases completed.bind frameMessage with
  | none =>
    refine ⟨by simp [emitted, ← same], fun call member => ?_⟩
    rcases List.mem_cons.mp member with rfl | member
    · exact fun _ => rfl
    · exact untouched call member
  | some message =>
    refine ⟨by simp [emitted, ← same], fun call member => ?_⟩
    rcases List.mem_cons.mp member with rfl | member
    · exact fun returned => by simp at returned
    · exact untouched call member

/-- From any open block the calls complete, and they emit what feeding the bytes completes. -/
theorem decodeCalls_represents (stream : List UInt8) {inst : SbusDecoderInstance}
    {opened : List UInt8} (represents : Represents inst opened)
    (isOpen : Opened sbusFrameHead 25 opened) (sbusMsg : SbusMessage) :
    ∃ calls, decodeCalls inst sbusMsg stream = some calls ∧
      Decodes calls ((feedAll sbusFrameHead 25 opened stream).filterMap frameMessage) := by
  induction stream generalizing inst opened sbusMsg with
  | nil => exact ⟨[], rfl, rfl, by simp⟩
  | cons ch rest ih =>
    obtain ⟨next, success, after, -⟩ := sbusDecodeMessage_represents represents isOpen ch sbusMsg
    obtain ⟨calls, decoded, decodes⟩ :=
      ih after (isOpen.feed ch) (answer sbusMsg (feed sbusFrameHead 25 opened ch).2).1
    refine ⟨_, by simp only [decodeCalls, success, decoded]; rfl, ?_⟩
    have step := decodes.cons sbusMsg (feed sbusFrameHead 25 opened ch).2
    rw [feedAll, List.filterMap_append]
    cases completed : (feed sbusFrameHead 25 opened ch).2 with
    | none => simpa [completed] using step
    | some block =>
      cases framed : frameMessage block <;> simpa [completed, framed] using step

/-- An initialised decoder decodes any stream as the reference parser does. -/
theorem decodes_init (inst : SbusDecoderInstance) (sbusMsg : SbusMessage) (stream : List UInt8) :
    ∃ calls, decodeCalls (sbusDecoderInit inst) sbusMsg stream = some calls ∧
      Decodes calls (parseSbus stream) := by
  have isOpen : Opened sbusFrameHead 25 [] := opened_nil (by decide)
  have idle : Represents (sbusDecoderInit inst) [] := represents_nil rfl
  have run := decodeCalls_represents stream idle isOpen sbusMsg
  rwa [feedAll_eq_blocks isOpen, List.nil_append] at run

/-- From an initialised decoder with any buffer, no call on any stream writes out of bounds, the
messages are those of the reference parser, and a call that returns false leaves the message alone. -/
theorem decodeCalls_eq_parseSbus (inst : SbusDecoderInstance) (sbusMsg : SbusMessage)
    (stream : List UInt8) :
    ∃ calls, decodeCalls (sbusDecoderInit inst) sbusMsg stream = some calls ∧
      emitted calls = parseSbus stream ∧
      ∀ call ∈ calls, call.returned = false → call.after = call.before := by
  obtain ⟨calls, success, decodes⟩ := decodes_init inst sbusMsg stream
  exact ⟨calls, success, decodes.messages, decodes.untouched⟩

end Robofw.Model
