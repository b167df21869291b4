import LineShell.Proofs.Guards
import LineShell.Proofs.PipeContents

/-!
# What output streams hold

A stream that holds bytes takes whatever is written to it, and then holds what it held before and, after that, what
was written. This is so for memory, and for pipes and regular files as long as the stream writes at their end.

## The model

What was written to a stream stands in several places: in memory and in the pipe through which programs write there,
or in a file and in a buffer before it. `World.held?` puts them in order. A stream that is closed, leads to a device or
writes in the middle of a file holds nothing that a write would add to.
-/

namespace LineShell

namespace World

/-! ### Buffers -/

/-- What leaves a buffer and what stays there is what it held and what came to it. -/
theorem buffered_append (buffer bs : Bytes) : (buffered buffer bs).1 ++ (buffered buffer bs).2 = buffer ++ bs := by
  unfold buffered
  by_cases hend : buffer.getLast? = some 0x0A
  · simp only [if_pos hend]
    by_cases hroom : bufferSize < ([] : Bytes).length + bs.length
    · simp only [if_pos hroom]
      split <;> simp
    · simp only [if_neg hroom]
      split <;> simp
  · simp only [if_neg hend]
    by_cases hroom : bufferSize < buffer.length + bs.length
    · simp only [if_pos hroom]
      split <;> simp
    · simp only [if_neg hroom]
      split
      · -- Bytes that fill the whole buffer had room in it, so it was empty.
        have hempty : buffer = [] := List.length_eq_zero_iff.1 (by omega)
        simp [hempty]
      · rfl

theorem lineBuffered_append (buffer bs : Bytes) :
    (lineBuffered buffer bs).1 ++ (lineBuffered buffer bs).2 = buffer ++ bs := by
  obtain ⟨tail, htail⟩ : ∃ tail, tail = (bs.reverse.takeWhile (· ≠ 0x0A)).reverse := ⟨_, rfl⟩
  have hsuffix : tail <:+ bs := by
    rw [htail, ← List.reverse_prefix, List.reverse_reverse]
    exact List.takeWhile_prefix _
  have hlines : bs.take (bs.length - tail.length) ++ tail = bs := by
    have hdrop := List.suffix_iff_eq_drop.1 hsuffix
    calc bs.take (bs.length - tail.length) ++ tail
        = bs.take (bs.length - tail.length) ++ bs.drop (bs.length - tail.length) := by rw [← hdrop]
      _ = bs := List.take_append_drop ..
  unfold lineBuffered
  simp only [← htail]
  split_ifs
  · exact buffered_append buffer bs
  · rw [List.append_nil, List.append_assoc, hlines]
  · rw [List.append_assoc, hlines]

/-! ### Files -/

/-- The bytes in an open file that is written at its end. -/
def heldBehind? (world : World) (file : Nat) : Option Bytes :=
  match world.machine.handles[file]? with
  | none => none
  | some handle =>
    match world.files.node? handle.node with
    | some (.regular data _) => if handle.append || handle.offset == data.size then some (bytesOf data) else none
    | some (.pipe pipe) => some pipe.bytes
    | _ => none

/-- The bytes that have come to an output stream, where a write would add to them. -/
def held? (world : World) (id : Nat) : Option Bytes :=
  match world.sinks[id]? with
  | some (.memory written relay) => some (written ++ world.relayed relay)
  | some (.inherited file buffer) => (world.heldBehind? file).map (· ++ buffer.getD [])
  | some (.opened file true) => world.heldBehind? file
  | _ => none

variable {world : World} {id file : Nat} {held : Bytes}

theorem heldBehind?_of_handle {handle : Handle} (hhandle : world.machine.handles[file]? = some handle) :
    world.heldBehind? file = match world.files.node? handle.node with
      | some (.regular data _) => if handle.append || handle.offset == data.size then some (bytesOf data) else none
      | some (.pipe pipe) => some pipe.bytes
      | _ => none := by
  rw [heldBehind?, hhandle]

theorem getElem?_setHandle (m : Script.Machine) (file : Nat) (handle : Handle) :
    (m.setHandle file handle).handles[file]? = some handle :=
  Std.TreeMap.getElem?_insert_self

/-- A file that is written at its end takes what is written. -/
theorem heldBehind?_writeFile (h : world.heldBehind? file = some held) (bs : Bytes) :
    ∃ after, writeFile file bs world = (.ok (), after) ∧ after.sinks = world.sinks ∧
      after.heldBehind? file = some (held ++ bs) := by
  cases hhandle : world.machine.handles[file]? with
  | none => simp [heldBehind?, hhandle] at h
  | some handle =>
    rw [writeFile_of_handle hhandle]
    rw [heldBehind?_of_handle hhandle] at h
    by_cases hbs : bs = []
    · rw [FileSystem.write, if_pos hbs]
      refine ⟨_, rfl, rfl, ?_⟩
      rw [heldBehind?_of_handle (getElem?_setHandle _ file handle), hbs, List.append_nil]
      exact h
    · rw [FileSystem.write, if_neg hbs]
      split at h
      · next data mode hnode =>
        rw [hnode]
        split at h
        · next hend =>
          obtain rfl := Option.some.inj h
          have hoffset : (if handle.append then data.size else handle.offset) = data.size := by
            split
            · rfl
            · next happend => simpa [happend] using hend
          have hnode' := FileSystem.node?_set_regular hnode (.regular (FileSystem.overwrite data data.size bs) mode)
          refine ⟨_, rfl, rfl, ?_⟩
          rw [heldBehind?_of_handle (getElem?_setHandle _ file _)]
          simp only [hoffset]
          change (match (world.files.set handle.node (.regular (FileSystem.overwrite data data.size bs) mode)).node?
            handle.node with | some (.regular data _) => _ | some (.pipe pipe) => _ | _ => _) = _
          rw [hnode']
          simp [FileSystem.overwrite, bytesOf]
        · cases h
      · next pipe hnode =>
        rw [hnode]
        obtain rfl := Option.some.inj h
        have hnode' := FileSystem.node?_set_pipe hnode (pipe.append bs)
        refine ⟨_, rfl, rfl, ?_⟩
        rw [heldBehind?_of_handle (getElem?_setHandle _ file _)]
        change (match (world.files.set handle.node (.pipe (pipe.append bs))).node? handle.node with
          | some (.regular data _) => _ | some (.pipe pipe) => _ | _ => _) = _
        rw [hnode', ← Pipe.bytes_append]
      · cases h

/-! ### Streams -/

theorem relayed_of_no_pipe {relay : Relay} (h : ∀ pipe, world.files.node? relay.node ≠ some (.pipe pipe)) :
    world.relayed (some relay) = [] := by
  simp only [relayed]

/-- What programs have written for a stream is taken over, so that nothing of it is left. -/
theorem takeRelayed_eq (relay : Option Relay) (world : World) :
    (takeRelayed relay world).1 = world.relayed relay ∧ (takeRelayed relay world).2.relayed relay = [] := by
  cases relay with
  | none => exact ⟨rfl, rfl⟩
  | some relay =>
    by_cases hpipe : ∃ pipe, world.files.node? relay.node = some (.pipe pipe)
    · obtain ⟨pipe, hnode⟩ := hpipe
      have htaken : takeRelayed (some relay) world = (pipe.bytes, world.withFiles (world.files.set relay.node
          (.pipe { pipe with front := [], back := [], pages := [] }))) := by
        rw [takeRelayed, drainPipe, Run.get_bind, hnode]
        rfl
      have hempty := FileSystem.node?_set_pipe hnode { pipe with front := [], back := [], pages := [] }
      rw [htaken]
      refine ⟨by simp only [relayed, hnode], ?_⟩
      simp only [relayed, withFiles, files] at hempty ⊢
      rw [hempty]
      rfl
    · have hnone := relayed_of_no_pipe fun pipe hnode => hpipe ⟨pipe, hnode⟩
      have htaken : takeRelayed (some relay) world = ([], world) := by
        rw [takeRelayed, drainPipe, Run.get_bind]
        cases hnode : world.files.node? relay.node with
        | none => rfl
        | some node =>
          cases node with
          | pipe pipe => exact absurd ⟨pipe, hnode⟩ hpipe
          | directory | regular | link | device | descriptor => rfl
      rw [htaken]
      exact ⟨hnone.symm, hnone⟩

/-- **A stream that holds bytes takes what is written to it.** -/
theorem held?_write (hthere : world.isGone = false) (h : world.held? id = some held) (bs : Bytes) :
    ∃ after, write id bs world = (.ok (), after) ∧ after.held? id = some (held ++ bs) := by
  unfold held? at h
  rw [write, Run.get_bind, if_neg (Bool.eq_false_iff.1 hthere)]
  split at h
  · next written relay hsink =>
    obtain rfl := Option.some.inj h
    rw [hsink]
    obtain ⟨htaken, hrest⟩ := takeRelayed_eq relay world
    have hsinks := congrArg Prod.fst (takeRelayed_keeps_sinks relay world)
    refine ⟨(takeRelayed relay world).2.setSink id (.memory (written ++ (takeRelayed relay world).1 ++ bs) relay),
      rfl, ?_⟩
    rw [held?, getElem?_setSink_self ((congrArg (·[id]?) hsinks).trans hsink), htaken]
    change some (_ ++ (takeRelayed relay world).2.relayed relay) = _
    rw [hrest, List.append_nil]
  · next file buffer hsink =>
    rw [hsink]
    obtain ⟨behind, hbehind, rfl⟩ := Option.map_eq_some_iff.1 h
    cases buffer with
    | none =>
      obtain ⟨after, hwrite, hsinks, hheld⟩ := heldBehind?_writeFile hbehind bs
      refine ⟨after, hwrite, ?_⟩
      rw [held?, hsinks, hsink]
      simp [hheld]
    | some buffer =>
      obtain ⟨out, rest, hbuffered⟩ : ∃ out rest, lineBuffered buffer bs = (out, rest) := ⟨_, _, rfl⟩
      have hsplit := lineBuffered_append buffer bs
      rw [hbuffered] at hsplit
      have hbehind' : (world.setSink id (.inherited file (some rest))).heldBehind? file = some behind := hbehind
      obtain ⟨after, hwrite, hsinks, hheld⟩ := heldBehind?_writeFile hbehind' out
      refine ⟨after, ?_, ?_⟩
      · simp only [hbuffered]
        exact hwrite
      · rw [held?, hsinks, getElem?_setSink_self hsink]
        simp only [hheld, Option.map_some, Option.getD_some, List.append_assoc]
        rw [hsplit]
  · next file hsink =>
    rw [hsink]
    obtain ⟨after, hwrite, hsinks, hheld⟩ := heldBehind?_writeFile h bs
    refine ⟨after, hwrite, ?_⟩
    rw [held?, hsinks, hsink]
    exact hheld
  · cases h

end World

end LineShell
