import LineShell.Key
import Mathlib.Data.List.Basic

/-!
# Reading keys to the end of the input

Whatever a terminal brings and wherever its reads fail, reading one key after the other comes to the end of
the input, and each call but the last uses up a byte or a failed read. No failure is lost and none is reported
twice, not even in the middle of a character or of an escape sequence. Reads that were interrupted make no
difference at all.

## The model

A reader takes events off the front of a list. It is `Steady` if it does the same without the interruptions, and
what it brings `Reports` the failures if those among the events are the one it reports and those it leaves. Both
are shown for each reader of `Key`, the inner ones first, and then for `readAll` by the events that are left.
`call` is what the calls of `read` bring, one after the other.
-/

namespace LineShell

/-- The message of a read that failed. -/
def Event.failure? : Event → Option String
  | .failed message => some message
  | _ => none

/-- The messages of the reads that failed, in order. -/
def Event.failures (es : List Event) : List String := es.filterMap failure?

/-- The byte that a read brought. -/
def Event.byte? : Event → Option UInt8
  | .byte b => some b
  | _ => none

/-- The bytes that were brought, in order. -/
def Event.bytes (es : List Event) : Bytes := es.filterMap byte?

/-- The events but for the reads that were interrupted. -/
def Event.settled (es : List Event) : List Event := es.filter (· ≠ .interrupted)

/-- What is left without the interruptions are the bytes and the failed reads. -/
theorem Event.settled_length (es : List Event) :
    (settled es).length = (bytes es).length + (failures es).length := by
  induction es with
  | nil => rfl
  | cons e es ih =>
    cases e with
    | interrupted => exact ih
    | byte b =>
      change (settled es).length + 1 = (bytes es).length + 1 + (failures es).length
      omega
    | failed message =>
      change (settled es).length + 1 = (bytes es).length + ((failures es).length + 1)
      omega

namespace Key

open Event (bytes failures settled settled_length)

variable {α : Type} {es : List Event}

/-- The message of the failed read that is reported. -/
def failure? : Except String α → Option String
  | .error message => some message
  | .ok _ => none

/-- What call number `n` brings and leaves, where each goes on from what the one before it has left. -/
def call (es : List Event) : Nat → KeyRead × List Event
  | 0 => read es
  | n + 1 => call (read es).2 n

/-- The first byte is a key by itself, or begins an escape sequence or a character. -/
theorem startingWith_cases (b : UInt8) :
    (∃ key, isEnd (.ok key) = false ∧ startingWith b = fun es => (.ok key, es)) ∨ startingWith b = escape ∨
      ∃ n, startingWith b = character [b] n := by
  unfold startingWith
  split_ifs
  · exact .inl ⟨.enter, rfl, rfl⟩
  · exact .inl ⟨.tab, rfl, rfl⟩
  · exact .inl ⟨.backspace, rfl, rfl⟩
  · exact .inl ⟨.interrupt, rfl, rfl⟩
  · exact .inl ⟨.endOfText, rfl, rfl⟩
  · exact .inr (.inl rfl)
  · exact .inl ⟨.other, rfl, rfl⟩
  · cases width? b with
    | none => exact .inl ⟨.other, rfl, rfl⟩
    | some n => exact .inr (.inr ⟨n - 1, rfl⟩)

/-! ### Interrupted reads -/

/-- The reader brings the same without the interruptions, and leaves the same but for them. -/
def Steady (reader : List Event → Except String α × List Event) : Prop :=
  ∀ es, reader (settled es) = ((reader es).1, settled (reader es).2)

theorem nextByte_steady : Steady nextByte := by
  intro es
  fun_induction nextByte es with
  | case1 => rfl
  | case2 => rfl
  | case3 es ih => exact ih
  | case4 => rfl

theorem controlSequence_steady (plain : Bool) : Steady (controlSequence plain) := by
  intro es
  induction es generalizing plain with
  | nil => rfl
  | cons e es ih =>
    cases e with
    | interrupted => exact ih plain
    | failed message => rfl
    | byte b =>
      change controlSequence plain (.byte b :: settled es) = _
      simp only [controlSequence]
      split_ifs
      · exact ih false
      all_goals rfl

theorem singleShift_steady : Steady singleShift := by
  intro es
  rw [singleShift, nextByte_steady, singleShift]
  cases nextByte es with
  | mk result rest => cases result <;> rfl

theorem escape_steady : Steady escape := by
  intro es
  rw [escape, nextByte_steady, escape]
  match nextByte es with
  | (.error message, rest) => rfl
  | (.ok b, rest) =>
    dsimp only
    split_ifs
    · exact singleShift_steady rest
    · exact controlSequence_steady true rest
    · rfl

theorem character_steady (seen : Bytes) (missing : Nat) : Steady (character seen missing) := by
  induction missing generalizing seen with
  | zero => exact fun es => rfl
  | succ missing ih =>
    intro es
    rw [character, nextByte_steady, character]
    match nextByte es with
    | (.error message, rest) => rfl
    | (.ok none, rest) => rfl
    | (.ok (some b), rest) => exact ih (seen ++ [b]) rest

theorem startingWith_steady (b : UInt8) : Steady (startingWith b) := by
  obtain ⟨key, -, h⟩ | h | ⟨n, h⟩ := startingWith_cases b
  · rw [h]
    exact fun es => rfl
  · rw [h]
    exact escape_steady
  · rw [h]
    exact character_steady [b] n

theorem read_steady : Steady read := by
  intro es
  rw [read, nextByte_steady, read]
  match nextByte es with
  | (.error message, rest) => rfl
  | (.ok none, rest) => rfl
  | (.ok (some b), rest) => exact startingWith_steady b rest

/-- Without the interruptions the calls bring the same. -/
theorem readAll_settled (es : List Event) : readAll (settled es) = readAll es := by
  fun_induction readAll es with
  | case1 es ih =>
    rw [readAll, read_steady es]
    congr 1
    split_ifs with hend
    · rfl
    · exact ih hend

/-! ### Failed reads -/

/-- The failures among the events are the one that is reported, if one is, and those that are left. -/
def Reports (es : List Event) (result : Except String α × List Event) : Prop :=
  failures es = (failure? result.1).toList ++ failures result.2

theorem nextByte_reports (es : List Event) : Reports es (nextByte es) := by
  fun_induction nextByte es with
  | case1 => rfl
  | case2 => rfl
  | case3 es ih => exact ih
  | case4 => rfl

theorem controlSequence_reports (plain : Bool) (es : List Event) : Reports es (controlSequence plain es) := by
  fun_induction controlSequence plain es with
  | case2 plain es ih => exact ih
  | case4 plain b es hparameter ih => exact ih
  | _ => rfl

/-- A reader that goes on after the next byte reports what that reader reports. -/
theorem Reports.next {rest : List Event} {b : Option UInt8} (hnext : nextByte es = (.ok b, rest))
    {result : Except String α × List Event} (h : Reports rest result) : Reports es result := by
  have hnone : failures es = failures rest := by
    have hone := nextByte_reports es
    rwa [hnext] at hone
  exact hnone.trans h

/-- A reader that fails where the next byte does reports that failure. -/
theorem reports_error {rest : List Event} {message : String} (hnext : nextByte es = (.error message, rest)) :
    Reports es ((.error message, rest) : Except String α × List Event) := by
  have hone := nextByte_reports es
  rwa [hnext] at hone

theorem singleShift_reports (es : List Event) : Reports es (singleShift es) := by
  rw [singleShift]
  split
  · next message rest hnext => exact reports_error hnext
  · next b rest hnext => exact .next hnext rfl

theorem escape_reports (es : List Event) : Reports es (escape es) := by
  rw [escape]
  split
  · next message rest hnext => exact reports_error hnext
  · next b rest hnext =>
    refine .next hnext ?_
    split_ifs
    · exact singleShift_reports rest
    · exact controlSequence_reports true rest
    · rfl

theorem character_reports (seen : Bytes) (missing : Nat) (es : List Event) :
    Reports es (character seen missing es) := by
  fun_induction character seen missing es with
  | case1 => rfl
  | case2 seen missing es message rest hnext => exact reports_error hnext
  | case3 seen missing es rest hnext => exact .next hnext rfl
  | case4 seen missing es b rest hnext ih => exact .next hnext ih

theorem startingWith_reports (b : UInt8) (es : List Event) : Reports es (startingWith b es) := by
  obtain ⟨key, -, h⟩ | h | ⟨n, h⟩ := startingWith_cases b
  · rw [h]
    rfl
  · rw [h]
    exact escape_reports es
  · rw [h]
    exact character_reports [b] n es

theorem read_reports (es : List Event) : Reports es (read es) := by
  rw [read]
  split
  · next message rest hnext => exact reports_error hnext
  · next rest hnext => exact .next hnext rfl
  · next b rest hnext => exact .next hnext (startingWith_reports b rest)

/-! ### The end of the input -/

theorem isEnd_iff {result : KeyRead} : isEnd result = true ↔ result = .ok .endOfInput := by
  cases result with
  | error message => simp [isEnd]
  | ok key => cases key <;> simp [isEnd]

theorem isEnd_controlSequence (plain : Bool) (es : List Event) : isEnd (controlSequence plain es).1 = false := by
  fun_induction controlSequence plain es with
  | case2 plain es ih => exact ih
  | case4 plain b es hparameter ih => exact ih
  | _ => rfl

theorem isEnd_singleShift (es : List Event) : isEnd (singleShift es).1 = false := by
  rw [singleShift]
  split
  · rfl
  · split_ifs <;> rfl

theorem isEnd_escape (es : List Event) : isEnd (escape es).1 = false := by
  rw [escape]
  split
  · rfl
  · split_ifs
    · exact isEnd_singleShift _
    · exact isEnd_controlSequence true _
    · rfl

theorem isEnd_character (seen : Bytes) (missing : Nat) (es : List Event) :
    isEnd (character seen missing es).1 = false := by
  fun_induction character seen missing es with
  | case1 seen es =>
    rw [ofBytes]
    split <;> rfl
  | case2 => rfl
  | case3 => rfl
  | case4 seen missing es b rest hnext ih => exact ih

theorem isEnd_startingWith (b : UInt8) (es : List Event) : isEnd (startingWith b es).1 = false := by
  obtain ⟨key, hkey, h⟩ | h | ⟨n, h⟩ := startingWith_cases b
  · rw [h]
    exact hkey
  · rw [h]
    exact isEnd_escape es
  · rw [h]
    exact isEnd_character [b] n es

theorem nextByte_snd_of_none {rest : List Event} (h : nextByte es = (.ok none, rest)) : rest = [] := by
  fun_induction nextByte es with
  | case1 => simpa using h.symm
  | case2 => simp at h
  | case3 es ih => exact ih h
  | case4 => simp at h

/-- At the end of the input nothing is left. -/
theorem read_of_isEnd (h : isEnd (read es).1 = true) : read es = (.ok .endOfInput, []) := by
  rw [read] at h ⊢
  split at h
  · simp [isEnd] at h
  · next rest hnext => rw [nextByte_snd_of_none hnext]
  · rw [isEnd_startingWith] at h
    cases h

/-- A call that does not come to the end of the input uses up a byte or a failed read. -/
theorem settled_length_lt (h : isEnd (read es).1 = false) : (settled (read es).2).length < (settled es).length := by
  have hlt := @read_length_lt (settled es)
  rw [read_steady es] at hlt
  exact hlt h

theorem call_nil (n : Nat) : (call [] n).1 = .ok .endOfInput := by
  induction n with
  | zero => rfl
  | succ n ih => exact ih

/-- After as many calls as there are bytes and failed reads, at most, the input has ended. -/
theorem exists_call_end (es : List Event) :
    ∃ n ≤ (settled es).length, (∀ m, (call es m).1 = .ok .endOfInput ↔ n ≤ m) ∧
      readAll es = (List.range (n + 1)).map fun m => (call es m).1 := by
  fun_induction readAll es with
  | case1 es ih =>
    by_cases hend : isEnd (read es).1 = true
    · refine ⟨0, Nat.zero_le _, fun m => ?_, ?_⟩
      · have hread := read_of_isEnd hend
        cases m with
        | zero => simp [call, hread]
        | succ m => simp [call, hread, call_nil]
      · rw [dif_pos hend]
        rfl
    · obtain ⟨n, hn, hcalls, hall⟩ := ih hend
      refine ⟨n + 1, ?_, fun m => ?_, ?_⟩
      · exact Nat.succ_le_of_lt (Nat.lt_of_le_of_lt hn (settled_length_lt (by simpa using hend)))
      · cases m with
        | zero => simpa [call, isEnd_iff] using hend
        | succ m => simpa [call] using hcalls m
      · rw [dif_neg hend, hall, List.range_succ_eq_map (n := n + 1), List.map_cons, List.map_map]
        rfl

/-- The failures among the events are those that are reported. -/
theorem failures_eq_filterMap_readAll (es : List Event) : failures es = (readAll es).filterMap failure? := by
  fun_induction readAll es with
  | case1 es ih =>
    have hone : failures es = (failure? (read es).1).toList ++ failures (read es).2 := read_reports es
    rw [hone, List.filterMap_cons]
    split_ifs with hend
    · rw [read_of_isEnd hend]
      rfl
    · rw [ih hend]
      cases failure? (read es).1 <;> rfl

/-- **Reading keys comes to the end of the input, and reports each failed read once.** Whatever the terminal
brings, the end of the input is reached after at most as many calls as there are bytes and failed reads, and
every call from then on says so. Up to there the failures that are reported are those that the terminal
brings, each once and in order, wherever they fall. And the keys and failures are the same without the
interrupted reads. -/
theorem calls_end (es : List Event) :
    (∃ n ≤ (bytes es).length + (failures es).length, (∀ m, (call es m).1 = .ok .endOfInput ↔ n ≤ m) ∧
      readAll es = (List.range (n + 1)).map fun m => (call es m).1) ∧
    (readAll es).filterMap failure? = failures es ∧
    readAll (settled es) = readAll es := by
  refine ⟨?_, (failures_eq_filterMap_readAll es).symm, readAll_settled es⟩
  rw [← settled_length]
  exact exists_call_end es

-- The first failed read falls inside a character of two bytes, the second one inside an escape sequence.
example : readAll [.byte 0xC3, .interrupted, .failed "lost", .byte 0xA9, .byte 0x1B, .failed "gone", .byte 0x41] =
    [.error "lost", .ok .other, .error "gone", .ok (.char 'A'), .ok .endOfInput] := by
  decide +kernel

end Key

end LineShell
